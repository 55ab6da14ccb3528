import Tradespeak.Decimal.Basic
import Tradespeak.Text.Blank
import Tradespeak.Text.DecimalDigit

/-!
# Reading decimals

A decimal is written as digits with an optional sign, point and exponent, as `inf` or `infinity`, or
as `nan` or `snan` with optional digits. Case does not matter, blanks around it are allowed,
underscores anywhere are disregarded, and digits of every script count.

* `digitsValue` — the number that a sequence of decimal digits writes.
* `Decimal.read` — the decimal that a text writes, exactly.
-/

set_option autoImplicit false

namespace Tradespeak

/-- The number that a sequence of decimal digits writes. Other characters count as zeros. -/
def digitsValue (digits : Text) : Nat :=
  digits.foldl (fun value c => 10 * value + (decimalDigit? c).getD 0) 0

namespace Decimal

/-- The text with the ASCII digit for every decimal digit and without underscores, if it is ASCII
then. -/
def toAscii : Text → Option Text
  | [] => some []
  | c :: rest =>
    if c = '_' then toAscii rest
    else if 0 < c.toNat ∧ c.toNat < 128 then (toAscii rest).map (c :: ·)
    else
      match decimalDigit? c with
      | some digit => (toAscii rest).map (Nat.digitChar digit :: ·)
      | none => none

/-- The sign that a text begins with, if it does, and the text after it. -/
def cutSign : Text → Bool × Text
  | '-' :: rest => (true, rest)
  | '+' :: rest => (false, rest)
  | s => (false, s)

/-- The integer that an exponent mark and a text write, no exponent being the exponent zero. -/
def readExponent : Text → Option Int
  | [] => some 0
  | mark :: rest =>
    if mark = 'e' ∨ mark = 'E' then
      let (negative, digits) := cutSign rest
      if digits = [] ∨ digits.all Char.isDigit = false then none
      else some (if negative then -(digitsValue digits : Int) else digitsValue digits)
    else none

/-- The greatest exponent that a decimal can be written with, in scientific form. -/
def writtenMaxExponent : Int := 999999999999999999

/-- The smallest exponent that the last digit of a decimal can be written with. -/
def writtenMinExponent : Int := -1999999999999999997

/-- The decimal with this coefficient, unless its exponent is beyond all limits. -/
def limited (negative : Bool) (coefficient : Nat) (exponent : Int) : Except Fault Decimal :=
  if writtenMaxExponent < scientificExponent coefficient exponent ∨
      exponent < writtenMinExponent then
    .error .undefined
  else .ok (.finite negative coefficient exponent)

/-- The finite decimal that an unsigned text writes. -/
def readFinite (negative : Bool) (s : Text) : Except Fault Decimal :=
  let whole := s.takeWhile Char.isDigit
  let afterWhole := s.dropWhile Char.isDigit
  let (fraction, afterFraction) :=
    match afterWhole with
    | '.' :: tail => (tail.takeWhile Char.isDigit, tail.dropWhile Char.isDigit)
    | _ => ([], afterWhole)
  if whole = [] ∧ fraction = [] then .error .syntaxError
  else
    match readExponent afterFraction with
    | none => .error .syntaxError
    | some exponent =>
      limited negative (digitsValue (whole ++ fraction)) (exponent - fraction.length)

/-- The decimal that a text in ASCII writes. -/
def readAscii (s : Text) : Except Fault Decimal :=
  let (negative, body) := cutSign s
  let lower := body.map Char.toLower
  if lower = "inf".toList ∨ lower = "infinity".toList then .ok (.infinite negative)
  else if lower.take 3 = "nan".toList ∧ (lower.drop 3).all Char.isDigit then
    .ok (.nan negative false (digitsValue (lower.drop 3)))
  else if lower.take 4 = "snan".toList ∧ (lower.drop 4).all Char.isDigit then
    .ok (.nan negative true (digitsValue (lower.drop 4)))
  else readFinite negative body

/-- The decimal that a text writes. -/
def read (s : Text) : Except Fault Decimal :=
  match toAscii (Text.trim s) with
  | none => .error .syntaxError
  | some ascii => readAscii ascii

/-- The decimal of an integer. -/
def ofInt (n : Int) : Decimal := .finite (decide (n < 0)) n.natAbs 0

end Decimal

end Tradespeak
