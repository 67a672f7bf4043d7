import EncodingLint.Text.Basic

/-!
# Blank characters

The characters with the Unicode property `White_Space`, and the removal of such characters from both
ends of a text. The zero-width characters U+200B and U+FEFF are not blank.
-/

set_option autoImplicit false

namespace EncodingLint.Text

/-- Whether a character has the property `White_Space`. -/
def isBlank (c : Char) : Bool :=
  let n := c.toNat
  (0x09 ≤ n && n ≤ 0x0d) || n == 0x20 || n == 0x85 || n == 0xa0 || n == 0x1680 ||
    (0x2000 ≤ n && n ≤ 0x200a) || n == 0x2028 || n == 0x2029 || n == 0x202f || n == 0x205f ||
    n == 0x3000

/-- The text without blank characters at its end. -/
def trimEnd (text : Text) : Text :=
  (text.reverse.dropWhile isBlank).reverse

/-- The text without blank characters at its two ends. -/
def trim (text : Text) : Text :=
  trimEnd (text.dropWhile isBlank)

/-- A string without blank characters at its two ends. -/
def trimmed (s : String) : String :=
  String.ofList (trim s.toList)

/-- Whether a string has no character other than blank ones. -/
def allBlank (s : String) : Bool :=
  s.toList.all isBlank

end EncodingLint.Text
