import EncodingLint.Text.Quoted

/-!
# String literals

A text as a string literal of Java source code. Quotes, backslashes and the common controls have short
escapes, and every other control character is written by its number in four digits.
-/

set_option autoImplicit false

namespace EncodingLint.Fix

/-- Whether a character is a control character. -/
def isControl (c : Char) : Bool :=
  c.toNat < 0x20 || (0x7f ≤ c.toNat && c.toNat ≤ 0x9f)

/-- The four hexadecimal digits of a number below `0x10000`. -/
def fourDigits (n : Nat) : Text :=
  let digits := Text.hexDigits n
  List.replicate (4 - digits.length) '0' ++ digits

/-- A character as it stands inside a string literal. -/
def literalChar (c : Char) : Text :=
  match c with
  | '"' => ['\\', '"']
  | '\\' => ['\\', '\\']
  | '\n' => ['\\', 'n']
  | '\r' => ['\\', 'r']
  | '\t' => ['\\', 't']
  | c => if isControl c then '\\' :: 'u' :: fourDigits c.toNat else [c]

/-- A text as a string literal. -/
def literal (text : Text) : Text :=
  '"' :: (text.flatMap literalChar ++ ['"'])

end EncodingLint.Fix
