/-!
# Double precision numbers read from decimals

A finite double is a whole number times a power of two. `ofDecimal` rounds a decimal to the nearest
double, a tie to the one with the even mantissa; all arithmetic is on natural numbers.
-/

set_option autoImplicit false

namespace EncodingLint

/-- A double. A finite one is `mantissa * 2 ^ exponent` up to its sign, with a mantissa below `2 ^ 53`
and an exponent of at least `-1074`. -/
inductive Binary64 where
  | nan
  | infinite (negative : Bool)
  | finite (negative : Bool) (mantissa : Nat) (exponent : Int)
deriving DecidableEq, Repr

namespace Binary64

/-- The least exponent of a double. -/
def minExponent : Int := -1074

/-- The greatest exponent of a finite double. -/
def maxExponent : Int := 971

/-- The numerator and denominator of `n * base ^ exponent`. -/
def scale (base : Nat) (n : Nat) (exponent : Int) : Nat × Nat :=
  match exponent with
  | .ofNat k => (n * base.pow k, 1)
  | .negSucc k => (n, base.pow (k + 1))

/-- The quotient rounded to the nearest whole number, a half to the even neighbour. -/
def roundDiv (num den : Nat) : Nat :=
  let floor := num / den
  let rest := 2 * (num % den)
  if den < rest ∨ (rest = den ∧ floor % 2 = 1) then floor + 1 else floor

/-- The double nearest to a positive quotient. -/
def ofQuotient (negative : Bool) (num den : Nat) : Binary64 :=
  let guess := max (Int.ofNat num.log2 - Int.ofNat den.log2 - 53) minExponent
  let part (exponent : Int) : Nat × Nat :=
    match exponent with
    | .ofNat k => (num, den * Nat.pow 2 k)
    | .negSucc k => (num * Nat.pow 2 (k + 1), den)
  let (n, d) := part guess
  let exponent := if Nat.pow 2 53 ≤ n / d then guess + 1 else guess
  let (n, d) := part exponent
  let mantissa := roundDiv n d
  let (mantissa, exponent) :=
    if mantissa = Nat.pow 2 53 then (Nat.pow 2 52, exponent + 1) else (mantissa, exponent)
  if maxExponent < exponent then infinite negative else finite negative mantissa exponent

/-- The double nearest to `digits * 10 ^ exponent`. -/
def ofDecimal (negative : Bool) (digits : Nat) (exponent : Int) : Binary64 :=
  let magnitude := Int.ofNat (Nat.toDigits 10 digits).length + exponent
  if digits = 0 ∨ magnitude < -400 then
    finite negative 0 minExponent
  else if 400 < magnitude then
    infinite negative
  else
    let (num, den) := scale 10 digits exponent
    ofQuotient negative num den

end Binary64

end EncodingLint
