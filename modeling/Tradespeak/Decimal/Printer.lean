import Tradespeak.Decimal.Basic

/-!
# Writing decimals

* `Decimal.scientific` — the form that keeps every digit and the exponent: positional if the
  exponent is not positive and the number is not below 0.000001, with an exponent otherwise.
* `Decimal.plain` — the form without an exponent.
-/

set_option autoImplicit false

namespace Tradespeak.Decimal

/-- A minus sign if the flag is set. -/
def sign (negative : Bool) : Text := if negative then ['-'] else []

/-- The digits with a point after the given number of them, zeros being supplied where there are
none. There is no point after the last digit. -/
def withPoint (digits : Text) (place : Int) : Text :=
  if place ≤ 0 then '0' :: '.' :: List.replicate (-place).toNat '0' ++ digits
  else if (digits.length : Int) ≤ place then
    digits ++ List.replicate (place.toNat - digits.length) '0'
  else digits.take place.toNat ++ '.' :: digits.drop place.toNat

/-- An infinity in words. -/
def infinityText (negative : Bool) : Text := sign negative ++ "Infinity".toList

/-- What is no number in words, with its digits. -/
def nanText (negative signalling : Bool) (payload : Nat) : Text :=
  sign negative ++ (if signalling then "sNaN".toList else "NaN".toList)
    ++ (if payload = 0 then [] else Text.ofNat payload)

/-- The exponent of the scientific form with its sign, nothing for zero. -/
def exponentText (exponent : Int) : Text :=
  if exponent = 0 then []
  else if exponent < 0 then 'E' :: Text.ofInt exponent
  else 'E' :: '+' :: Text.ofInt exponent

/-- The decimal in the form that keeps its digits and its exponent. -/
def scientific : Decimal → Text
  | finite negative coefficient exponent =>
    let digits := Text.ofNat coefficient
    let place := exponent + digits.length
    if exponent ≤ 0 ∧ -6 < place then sign negative ++ withPoint digits place
    else sign negative ++ withPoint digits 1 ++ exponentText (place - 1)
  | infinite negative => infinityText negative
  | nan negative signalling payload => nanText negative signalling payload

/-- The decimal in the form without an exponent. -/
def plain : Decimal → Text
  | finite negative coefficient exponent =>
    let digits := Text.ofNat coefficient
    sign negative ++ withPoint digits (exponent + digits.length)
  | infinite negative => infinityText negative
  | nan negative signalling payload => nanText negative signalling payload

end Tradespeak.Decimal
