import EncodingLint.Text.Shapeless

/-!
# Quoted texts in messages

A string is shown between double quotes. Quotes and backslashes get a backslash, the common controls
their letter, and every other character without a shape of its own its code point in hexadecimal.
-/

set_option autoImplicit false

namespace EncodingLint.Text

/-- The lower-case hexadecimal digits of a number, without leading zeros. -/
def hexDigits (n : Nat) : Text :=
  Nat.toDigits 16 n

/-- A character as it stands inside a quoted text. -/
def quotedChar (c : Char) : Text :=
  match c with
  | '\x00' => ['\\', '0']
  | '\t' => ['\\', 't']
  | '\r' => ['\\', 'r']
  | '\n' => ['\\', 'n']
  | '\\' => ['\\', '\\']
  | '"' => ['\\', '"']
  | c =>
    if isShapeless c then ['\\', 'u', '\x7b'] ++ hexDigits c.toNat ++ ['\x7d'] else [c]

/-- A string between double quotes. -/
def quoted (s : String) : String :=
  String.ofList ('"' :: (s.toList.flatMap quotedChar ++ ['"']))

end EncodingLint.Text
