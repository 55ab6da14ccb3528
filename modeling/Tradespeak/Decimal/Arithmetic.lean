import Tradespeak.Decimal.Basic

/-!
# Arithmetic of prices

* `Decimal.quotient` — a natural number divided by a positive one, with 28 digits.
* `Decimal.times` — a decimal taken a natural number of times.
* `Decimal.reduce` — the same number without trailing zeros.
-/

set_option autoImplicit false

namespace Tradespeak.Decimal

/-- The coefficient and the exponent of the same number with as many trailing zeros dropped as the
bound on the exponent allows. -/
def dropZeros (bound : Int) (coefficient : Nat) (exponent : Int) : Nat × Int :=
  if coefficient ≠ 0 ∧ coefficient % 10 = 0 ∧ exponent < bound then
    dropZeros bound (coefficient / 10) (exponent + 1)
  else (coefficient, exponent)
termination_by coefficient
decreasing_by omega

/-- The exponent of the last of 28 digits of the quotient of two positive numbers. -/
def quotientExponent (numerator denominator : Nat) : Int :=
  let low : Int := (digitCount numerator : Int) - digitCount denominator - precision
  if denominator * powerOfTen (precision + low.toNat) ≤ numerator * powerOfTen (-low).toNat then
    low + 1
  else low

/-- A natural number divided by a positive one. The result has 28 digits, the last one rounded to
the nearest, a half to the even one; an exact result drops the zeros after the point. -/
def quotient (numerator denominator : Nat) : Except Fault Decimal :=
  if denominator = 0 then .error .undefined
  else if numerator = 0 then .ok (.finite false 0 0)
  else
    let exponent := quotientExponent numerator denominator
    let scaledNumerator := numerator * powerOfTen (-exponent).toNat
    let scaledDenominator := denominator * powerOfTen exponent.toNat
    if scaledNumerator % scaledDenominator = 0 then
      let (coefficient, exponent) := dropZeros 0 (scaledNumerator / scaledDenominator) exponent
      bounded false coefficient exponent
    else carried false (roundDiv scaledNumerator scaledDenominator) exponent

/-- A decimal taken a number of times, rounded to the format. What is no number stays so, with the
last 28 of its digits. -/
def times (count : Nat) : Decimal → Except Fault Decimal
  | finite negative coefficient exponent => fit negative (count * coefficient) exponent
  | infinite negative => if count = 0 then .error .undefined else .ok (.infinite negative)
  | nan negative signalling payload =>
    if signalling then .error .undefined
    else .ok (.nan negative false (payload % powerOfTen precision))

/-- The same number without trailing zeros. A zero gets the exponent zero and keeps its sign. -/
def reduce : Decimal → Decimal
  | finite negative coefficient exponent =>
    if coefficient = 0 then finite negative 0 0
    else
      let (coefficient, exponent) := dropZeros maxExponent coefficient exponent
      finite negative coefficient exponent
  | other => other

end Tradespeak.Decimal
