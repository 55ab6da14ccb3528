import Tradespeak.Text.Basic

/-!
# Decimal numbers

* `Decimal` — a signed coefficient with a decimal exponent, an infinity, or no number at all.
  Trailing zeros of the coefficient and the sign of zero are part of a decimal.
* `roundDiv` — a quotient of natural numbers to the nearest integer, a half to the even one.
* `Decimal.fit` — the decimal that the format of the prices has for an exact result: at most 28
  digits, exponents from -1000026 to 999999 in scientific form.
-/

set_option autoImplicit false

namespace Tradespeak

/-- A decimal number. -/
inductive Decimal where
  /-- The coefficient times the power of ten, negative if the flag is set. -/
  | finite (negative : Bool) (coefficient : Nat) (exponent : Int)
  | infinite (negative : Bool)
  /-- No number, with some digits that tell why. A signalling one refuses arithmetic. -/
  | nan (negative signalling : Bool) (payload : Nat)
  deriving DecidableEq, Repr

/-- The number one with as many zeros after it. -/
def powerOfTen (zeros : Nat) : Nat := Nat.pow 10 zeros

/-- The number of digits of a natural number; zero has one. -/
def digitCount (n : Nat) : Nat := n.repr.length

/-- The quotient rounded to the nearest integer, a half to the even neighbour. -/
def roundDiv (numerator denominator : Nat) : Nat :=
  let floor := numerator / denominator
  let twice := 2 * (numerator % denominator)
  if twice < denominator then floor
  else if denominator < twice then floor + 1
  else floor + floor % 2

namespace Decimal

/-- Why there is no decimal. -/
inductive Fault where
  /-- The text writes no decimal. -/
  | syntaxError
  /-- The operation is not defined on its arguments, or its result is beyond all limits. -/
  | undefined
  /-- The result is larger than the largest decimal of the format. -/
  | overflow
  deriving DecidableEq, Repr

/-- The number of digits that a result has at most. -/
def precision : Nat := 28

/-- The greatest exponent of a result in scientific form. -/
def maxExponent : Int := 999999

/-- The smallest exponent of the last digit of a result. -/
def minExponent : Int := -1000026

/-- The exponent that the number has in scientific form. -/
def scientificExponent (coefficient : Nat) (exponent : Int) : Int :=
  exponent + (digitCount coefficient : Int) - 1

/-- The decimal with this coefficient, unless it is too large. -/
def bounded (negative : Bool) (coefficient : Nat) (exponent : Int) : Except Fault Decimal :=
  if maxExponent < scientificExponent coefficient exponent then .error .overflow
  else .ok (.finite negative coefficient exponent)

/-- The decimal with this rounded coefficient, one digit shorter if rounding added a digit. -/
def carried (negative : Bool) (coefficient : Nat) (exponent : Int) : Except Fault Decimal :=
  if coefficient = powerOfTen precision then
    bounded negative (powerOfTen (precision - 1)) (exponent + 1)
  else bounded negative coefficient exponent

/-- The format's decimal for an exact result: the result itself if its digits and its exponent are
within bounds, else the nearest one, a half to the even coefficient. A zero takes the nearest
exponent within bounds. -/
def fit (negative : Bool) (coefficient : Nat) (exponent : Int) : Except Fault Decimal :=
  if coefficient = 0 then .ok (.finite negative 0 (max minExponent (min exponent maxExponent)))
  else
    let surplus := max ((digitCount coefficient : Int) - precision) (minExponent - exponent)
    if surplus ≤ 0 then bounded negative coefficient exponent
    else if (digitCount coefficient : Int) < surplus then
      .ok (.finite negative 0 (exponent + surplus))
    else
      carried negative (roundDiv coefficient (powerOfTen surplus.toNat)) (exponent + surplus)

end Decimal

end Tradespeak
