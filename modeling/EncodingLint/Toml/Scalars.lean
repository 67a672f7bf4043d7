import EncodingLint.Toml.Node
import EncodingLint.Toml.Strings

/-!
# Numbers, date-times and truth values of a TOML document

Digits may be parted by single underscores. Whole numbers have 64 bits and floats are doubles. The days
of a month and the parts of a time are checked.
-/

set_option autoImplicit false

namespace EncodingLint.Toml.Scalars

def isDigit (c : Char) : Bool :=
  '0' ≤ c && c ≤ '9'

/-- A run of digits, each underscore between two of them; the underscores are left out. -/
def digits (isDigit : Char → Bool) : Reader Text := do
  let first ← Reader.nextWhich isDigit
  let others ← Reader.loop do
    match ← get with
    | '_' :: c :: cs => if isDigit c then set cs; return some c else return none
    | c :: cs => if isDigit c then set cs; return some c else return none
    | [] => return none
  return first :: others

/-- Takes a sign, and tells whether it is a minus. -/
def sign : Reader Bool := do
  if ← Reader.accept '-' then return true
  let _ ← Reader.accept '+'
  return false

/-- The digits of a whole number in base ten, which starts with no superfluous zero. -/
def wholeDigits : Reader Text := do
  if ← Reader.accept '0' then return ['0'] else digits isDigit

/-- A number that fits into a signed 64-bit word. -/
def checkedInteger (n : Int) : Reader Node :=
  if -Int.pow 2 63 ≤ n ∧ n < Int.pow 2 63 then return .integer n else failure

/-- A whole number with a base mark. -/
def basedInteger (mark : Char) (base : Nat) (isDigit : Char → Bool) : Reader Node := do
  Reader.expectAll ['0', mark]
  checkedInteger (Int.ofNat (ofDigits base (← digits isDigit)))

/-- A whole number in base ten. -/
def decimalInteger : Reader Node := do
  let negative ← sign
  let n := Int.ofNat (ofDigits 10 (← wholeDigits))
  checkedInteger (if negative then -n else n)

/-- A whole number. -/
def integer : Reader Node :=
  basedInteger 'x' 16 isHexDigit <|>
  basedInteger 'o' 8 (fun c => '0' ≤ c && c ≤ '7') <|>
  basedInteger 'b' 2 (fun c => c = '0' || c = '1') <|>
  decimalInteger

/-- The exponent of a float. -/
def exponent : Reader Int := do
  let _ ← Reader.nextWhich fun c => c = 'e' || c = 'E'
  let negative ← sign
  let n := Int.ofNat (ofDigits 10 (← digits isDigit))
  return if negative then -n else n

/-- The digits after the point of a float. -/
def fraction : Reader Text := do
  Reader.expect '.'
  digits isDigit

/-- A float with a fraction, an exponent or both. One that is too large is refused; a negative one that
is too large becomes infinite. -/
def finiteFloat : Reader Node := do
  let negative ← sign
  let whole ← wholeDigits
  let (places, power) ←
    (do let places ← fraction
        let power ← exponent <|> return 0
        return (places, power)) <|>
    (do return ([], ← exponent))
  let value :=
    Binary64.ofDecimal negative (ofDigits 10 (whole ++ places)) (power - Int.ofNat places.length)
  if value = .infinite false then failure else return .float value

/-- Infinity or a float that is no number. -/
def specialFloat : Reader Node := do
  let negative ← sign
  (do Reader.expectAll ['i', 'n', 'f']; return .float (.infinite negative)) <|>
  (do Reader.expectAll ['n', 'a', 'n']; return .float .nan)

/-- A number of exactly `count` digits between two bounds. -/
def bounded (count low high : Nat) : Reader Nat := do
  let n := ofDigits 10 (← Reader.takeExactly count isDigit)
  if low ≤ n ∧ n ≤ high then return n else failure

/-- The number of days of a month. -/
def daysInMonth (year month : Nat) : Nat :=
  if month = 2 then
    if year % 4 = 0 ∧ (year % 100 ≠ 0 ∨ year % 400 = 0) then 29 else 28
  else if month = 4 ∨ month = 6 ∨ month = 9 ∨ month = 11 then
    30
  else
    31

/-- A date, as in `1979-05-27`. -/
def date : Reader Unit := do
  let year ← bounded 4 0 9999
  Reader.expect '-'
  let month ← bounded 2 1 12
  Reader.expect '-'
  let _ ← bounded 2 1 (daysInMonth year month)

/-- A time of day, as in `07:32:00.5`; a minute may have a leap second. -/
def time : Reader Unit := do
  let _ ← bounded 2 0 23
  Reader.expect ':'
  let _ ← bounded 2 0 59
  Reader.expect ':'
  let _ ← bounded 2 0 60
  (do Reader.expect '.'; let _ ← Reader.takeWhile1 isDigit) <|> return ()

/-- The offset of a time zone. -/
def zone : Reader Unit := do
  match ← Reader.next with
  | 'Z' | 'z' => return ()
  | '+' | '-' =>
    let _ ← bounded 2 0 23
    Reader.expect ':'
    let _ ← bounded 2 0 59
  | _ => failure

/-- A date, a time of day, or both with or without a time zone. -/
def dateTime : Reader Node := do
  let before ← get
  (do date
      (do let _ ← Reader.nextWhich fun c => c = 'T' || c = 't' || c = ' '
          time
          zone <|> return ()) <|> return ()) <|>
    time
  let after ← get
  return .dateTime (String.ofList (before.take (before.length - after.length)))

/-- A truth value. -/
def boolean : Reader Node :=
  (do Reader.expectAll ['t', 'r', 'u', 'e']; return .boolean true) <|>
  (do Reader.expectAll ['f', 'a', 'l', 's', 'e']; return .boolean false)

/-- A value without parts. -/
def scalar : Reader Node :=
  (do return .string (← Strings.string)) <|>
  dateTime <|> finiteFloat <|> specialFloat <|> integer <|> boolean

end EncodingLint.Toml.Scalars
