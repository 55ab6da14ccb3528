import Tradespeak.Refusal

/-!
# Roman numerals

* `digitWorth` — what a single digit is worth, nothing for any other character.
* `worth` — the value of a sequence of digits, read from left to right with at most one digit held
  back that may still pair with the next one. It is defined on every text.
* `hasCanonicalForm` — the numerals I to MMMCMXCIX: at most three thousands, then a group of digits
  for each decimal place.
* `Numeral` — a canonical text of digits; `Numeral.read` accepts just these.
* `ofNat` — the numeral of a number by taking the largest denomination that fits, again and again.
-/

set_option autoImplicit false

namespace Tradespeak

namespace Numeral

/-- What a digit is worth. Any other character is worth nothing. -/
def digitWorth : Char → Nat
  | 'I' => 1
  | 'V' => 5
  | 'X' => 10
  | 'L' => 50
  | 'C' => 100
  | 'D' => 500
  | 'M' => 1000
  | _ => 0

/-- What a text is worth as one digit: nothing unless it is a single digit. -/
def symbolWorth : Text → Nat
  | [c] => digitWorth c
  | _ => 0

/-- The digits that may stand before a larger one to be taken away from it. -/
def isSubtractive (c : Char) : Bool := c == 'I' || c == 'X' || c == 'C'

/-- The value of the digits, the first argument being the digit held back before them. Of two
equal digits both are added; a smaller one before a larger one is taken away from it; otherwise
the digit held back is added and the next one is held back, whichever it is. -/
def worthAfter : Option Char → Text → Nat
  | none, [] => 0
  | some held, [] => digitWorth held
  | none, c :: rest =>
    if isSubtractive c then worthAfter (some c) rest else digitWorth c + worthAfter none rest
  | some held, c :: rest =>
    if held = c then digitWorth c + digitWorth held + worthAfter none rest
    else if digitWorth held < digitWorth c then
      digitWorth c - digitWorth held + worthAfter none rest
    else digitWorth held + worthAfter (some c) rest

/-- The value of a sequence of digits. -/
def worth (digits : Text) : Nat := worthAfter none digits

/-! ## Canonical form -/

/-- The signs for one, five and ten units of a decimal place. -/
structure Place where
  one : Char
  five : Char
  ten : Char
  deriving DecidableEq, Repr

/-- The place of the units. -/
def Place.units : Place := ⟨'I', 'V', 'X'⟩

/-- The place of the tens. -/
def Place.tens : Place := ⟨'X', 'L', 'C'⟩

/-- The place of the hundreds. -/
def Place.hundreds : Place := ⟨'C', 'D', 'M'⟩

/-- The text without as many of its leading copies of a character as the bound allows. -/
def dropCopies (c : Char) : Nat → Text → Text
  | 0, s => s
  | _ + 1, [] => []
  | n + 1, d :: rest => if d = c then dropCopies c n rest else d :: rest

/-- What follows the group of digits for one decimal place: nine, four, or an optional five and
at most three ones. -/
def Place.after (place : Place) : Text → Text
  | a :: b :: rest =>
    if a = place.one ∧ (b = place.ten ∨ b = place.five) then rest
    else dropCopies place.one 3 (dropCopies place.five 1 (a :: b :: rest))
  | s => dropCopies place.one 3 (dropCopies place.five 1 s)

/-- The text is a numeral in canonical form: not empty, and nothing is left of it after the
thousands, the hundreds, the tens and the units. -/
def hasCanonicalForm (s : Text) : Bool :=
  s ≠ [] ∧ Place.units.after (Place.tens.after (Place.hundreds.after (dropCopies 'M' 3 s))) = []

/-! ## The numeral of a number -/

/-- The denominations in falling order, with the pairs that stand for a difference. -/
def denominations : List (Text × Nat) :=
  [("M".toList, 1000), ("CM".toList, 900), ("D".toList, 500), ("CD".toList, 400),
    ("C".toList, 100), ("XC".toList, 90), ("L".toList, 50), ("XL".toList, 40), ("X".toList, 10),
    ("IX".toList, 9), ("V".toList, 5), ("IV".toList, 4), ("I".toList, 1)]

/-- Each denomination in turn as often as it fits into what is left of the number. -/
def spend : List (Text × Nat) → Nat → Text
  | [], _ => []
  | (sign, value) :: rest, n =>
    (List.replicate (n / value) sign).flatten ++ spend rest (n % value)

/-- The numeral of a number by the largest denomination that fits, again and again. -/
def ofNat (n : Nat) : Text := spend denominations n

end Numeral

/-- A Roman numeral: digits in canonical form. -/
structure Numeral where
  digits : Text
  canonical : Numeral.hasCanonicalForm digits = true
  deriving DecidableEq, Repr

namespace Numeral

/-- The value of a numeral. -/
def value (numeral : Numeral) : Nat := worth numeral.digits

/-- The numeral that the text is, refused if it is none. -/
def read (s : Text) : Except Refusal Numeral :=
  if canonical : hasCanonicalForm s = true then .ok ⟨s, canonical⟩ else .error (.notANumeral s)

end Numeral

end Tradespeak
