import EncodingLint.Toml.Reader

/-!
# Strings of a TOML document

Basic strings have escapes and literal strings have none; both stand on one line between single marks,
or on several lines between triple marks. A line break inside a string is read as LF.
-/

set_option autoImplicit false

namespace EncodingLint.Toml

/-- Characters that may stand in a comment: everything but controls, the tab excepted. -/
def isPlain (c : Char) : Bool :=
  c = '\t' || (0x20 ≤ c.toNat && c.toNat ≠ 0x7f)

def isHexDigit (c : Char) : Bool :=
  ('0' ≤ c && c ≤ '9') || ('a' ≤ c && c ≤ 'f') || ('A' ≤ c && c ≤ 'F')

/-- The value of a digit in a base up to sixteen. -/
def digitValue (c : Char) : Nat :=
  if c ≤ '9' then c.toNat - '0'.toNat
  else if c ≤ 'F' then c.toNat - 'A'.toNat + 10
  else c.toNat - 'a'.toNat + 10

/-- The number that digits spell in a base. -/
def ofDigits (base : Nat) (digits : Text) : Nat :=
  digits.foldl (fun n c => n * base + digitValue c) 0

namespace Strings

/-- The character with the code point that hexadecimal digits spell. -/
def scalar? (digits : Text) : Option Char :=
  let n := ofDigits 16 digits
  if digits.all isHexDigit && (n < 0xd800 || (0xdfff < n && n < 0x110000)) then
    some (Char.ofNat n)
  else
    none

/-- The character that a letter stands for after a backslash. -/
def escaped? : Char → Option Char
  | 'b' => some '\x08'
  | 't' => some '\t'
  | 'n' => some '\n'
  | 'f' => some '\x0c'
  | 'r' => some '\r'
  | '"' => some '"'
  | '\\' => some '\\'
  | _ => none

/-- Takes what stands after a backslash. -/
def escape : Reader Char := do
  match ← Reader.next with
  | 'u' => scalar? (← Reader.takeExactly 4 isHexDigit)
  | 'U' => scalar? (← Reader.takeExactly 8 isHexDigit)
  | c => escaped? c

/-- A basic string on one line, after its opening mark. -/
def basicBody : Reader Text := do
  let cs ← Reader.loop do
    match ← Reader.next with
    | '"' => return none
    | '\\' => return some (← escape)
    | c => if isPlain c then return some c else failure
  return cs

/-- A literal string on one line, after its opening mark. -/
def literalBody : Reader Text := do
  let cs ← Reader.takeWhile fun c => isPlain c && c ≠ '\''
  Reader.expect '\''
  return cs

/-- Takes a line break, LF or CR LF. -/
def newline : Reader Unit := do
  let _ ← Reader.accept '\r'
  Reader.expect '\n'

/-- Whether a text starts with a line break. -/
def startsWithNewline : Text → Bool
  | '\n' :: _ => true
  | '\r' :: '\n' :: _ => true
  | _ => false

/-- Takes a line break if one comes next. -/
def skipNewline : Reader Unit := do
  if startsWithNewline (← get) then newline

/-- Takes blanks and line breaks. -/
def skipBlankLines : Reader Unit := do
  let _ ← Reader.loop do
    match ← Reader.peek with
    | some ' ' | some '\t' => return some (← Reader.next)
    | _ => if startsWithNewline (← get) then newline; return some '\n' else return none

/-- Takes closing marks, after the first one was seen: a run of three to five marks closes a string on
several lines, and what goes beyond three belongs to the string. -/
def closing? (mark : Char) (text : Text) : Option (Text × Text) :=
  let run := (text.takeWhile (· = mark)).length
  if 3 ≤ run then
    let kept := min run 5 - 3
    some (List.replicate kept mark, text.drop (kept + 3))
  else
    none

/-- A string on several lines, after its opening marks. -/
def multilineBody (mark : Char) (escapes : Bool) : Reader Text := do
  skipNewline
  let parts : List Text ← Reader.loop do
    let s ← get
    if startsWithNewline s then
      newline
      return some ['\n']
    else if (closing? mark s).isSome then
      return none
    else
      let c ← Reader.next
      if c = '\\' && escapes then
        if startsWithNewline ((← get).dropWhile fun c => c = ' ' || c = '\t') then
          skipBlankLines
          return some []
        else
          return some [← escape]
      else if isPlain c then
        return some [c]
      else
        failure
  let (kept, rest) ← closing? mark (← get)
  set rest
  return parts.flatten ++ kept

/-- A string of either kind between single or triple marks. -/
def string : Reader String := do
  let mark ← Reader.nextWhich fun c => c = '"' || c = '\''
  let basic := mark = '"'
  let s ← get
  let body ←
    if s.take 2 = [mark, mark] then
      set (s.drop 2)
      multilineBody mark basic
    else if basic then
      basicBody
    else
      literalBody
  return String.ofList body

/-- A string between single marks, as it may stand for a key. -/
def quotedKey : Reader String := do
  let mark ← Reader.nextWhich fun c => c = '"' || c = '\''
  return String.ofList (← if mark = '"' then basicBody else literalBody)

end Strings

end EncodingLint.Toml
