import EncodingLint.Decimal.Binary64

/-!
# Shortest decimals

The decimal with the fewest digits that reads back as a given double, and of two such the nearer one.
Every decimal strictly inside the double's rounding interval reads back; the ends of the interval do so
exactly if the mantissa is even.
-/

set_option autoImplicit false

namespace EncodingLint

/-- A decimal `digits * 10 ^ exponent`. -/
structure Decimal where
  digits : Nat
  exponent : Int
deriving DecidableEq, Repr

namespace Decimal

/-- The exponent of the leading digit of a positive quotient. -/
def leadingExponent (num den : Nat) : Int :=
  if den ≤ num then
    Int.ofNat (Nat.toDigits 10 (num / den)).length - 1
  else
    - Int.ofNat (((List.range 400).find? fun j => den ≤ num * Nat.pow 10 j).getD 0)

/-- Four times the ends of the rounding interval of `mantissa * 2 ^ exponent`, in units of
`2 ^ exponent`: half a step to either side, except that the step below a power of two is half as long. -/
def quarterInterval (mantissa : Nat) (exponent : Int) : Nat × Nat :=
  let below := if mantissa = Nat.pow 2 52 ∧ Binary64.minExponent < exponent then 1 else 2
  (4 * mantissa - below, 4 * mantissa + 2)

/-- The decimal with `count` digits that is nearest to a positive double and reads back as it, if any;
of two equally near ones the greater. -/
def withDigits? (mantissa : Nat) (exponent : Int) (count : Nat) : Option Decimal :=
  let (low, high) := quarterInterval mantissa exponent
  -- The quarter steps of the interval are multiples of `unit / den`.
  let (unit, den) := Binary64.scale 2 1 (exponent - 2)
  let place := leadingExponent (4 * mantissa * unit) den + 1 - Int.ofNat count
  -- Both sides of every comparison are scaled by the denominators.
  let (grid, gridDen) := Binary64.scale 10 1 place
  let value := 4 * mantissa * unit * gridDen
  let step := grid * den
  let floor := value / step
  let fits (d : Nat) : Bool :=
    let x := d * step
    let low := low * unit * gridDen
    let high := high * unit * gridDen
    if mantissa % 2 = 0 then low ≤ x && x ≤ high else low < x && x < high
  if fits floor && (!fits (floor + 1) || 2 * (value - floor * step) < step) then
    some ⟨floor, place⟩
  else if fits (floor + 1) then
    some ⟨floor + 1, place⟩
  else
    none

/-- The same decimal without zeros at its end. -/
def strip (digits : Nat) (exponent : Int) : Decimal :=
  if digits ≠ 0 ∧ digits % 10 = 0 then strip (digits / 10) (exponent + 1) else ⟨digits, exponent⟩
termination_by digits
decreasing_by omega

/-- The decimal with the fewest digits that reads back as a positive double. What is found on a grid may
be the power of ten next above the value, which has a digit more than the grid: its zeros are dropped. -/
def shortest (mantissa : Nat) (exponent : Int) : Decimal :=
  let found := (List.range 17).findSome? fun n => withDigits? mantissa exponent (n + 1)
  let d := found.getD ⟨0, 0⟩
  strip d.digits d.exponent

/-- A decimal in positional notation, with at least one digit on either side of the point. -/
def positional (d : Decimal) : String :=
  let digits := Nat.toDigits 10 d.digits
  let text :=
    match d.exponent with
    | .ofNat k => digits ++ List.replicate k '0' ++ ['.', '0']
    | .negSucc k =>
      let padded := List.replicate (k + 2 - digits.length) '0' ++ digits
      let whole := padded.length - (k + 1)
      padded.take whole ++ '.' :: padded.drop whole
  String.ofList text

end Decimal

namespace Binary64

/-- A double in messages: the shortest decimal, positional. -/
def describe : Binary64 → String
  | nan => "NaN"
  | infinite negative => if negative then "-inf" else "inf"
  | finite negative mantissa exponent =>
    let sign := if negative then "-" else ""
    let text := if mantissa = 0 then "0.0" else (Decimal.shortest mantissa exponent).positional
    sign ++ text

end Binary64

end EncodingLint
