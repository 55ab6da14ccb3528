import Tradespeak.Proofs.Decimal.ReadBack
import Tradespeak.Proofs.Decimal.RelativeError
import Tradespeak.Proofs.Market.CostQuestion
import Tradespeak.Proofs.Market.Permanence

/-!
# How exact a total is

* `tellCost_of_quotient` — the reply to a question for a cost, when the price is a quotient.

Principal result: `total_accuracy` — the total that a reply names has a relative error of at most
10⁻²⁷, and it is exact where 28 digits are enough for the price and for the total.
-/

set_option autoImplicit false

namespace Tradespeak.Market

open Decimal (IsRounding IsShort)

variable {forms : List Form} {market : Market} {line question phrase asked item credits : Text}
  {between : List Text} {units count : Numeral} {unitPrice : Decimal} {numerator : ℕ}

/-- The reply to a question for a cost, unless the total is too large, when the price is a quotient.
What the reply names is read back as the total, which is a number. -/
theorem tellCost_of_quotient (hcount : market.vocabulary.numeralOf asked = .ok count)
    (hprice : market.prices.get? item = some unitPrice)
    (hquotient : Decimal.quotient numerator units.value = .ok unitPrice)
    (hanswered : ∀ fault, market.tellCost asked item ≠ .failed fault) :
    ∃ shown total, market.tellCost asked item =
        .replied (asked ++ ' ' :: item ++ " is ".toList ++ shown ++ " Credits".toList) ∧
      Decimal.read shown = .ok total ∧ total.IsFinite ∧ ∃ rounded : Decimal,
        total.toRat = rounded.toRat ∧ IsRounding (count.value * unitPrice.toRat) rounded := by
  have htell := tellCost_of_price hcount hprice
  rcases Decimal.times_unitPrice hquotient count.value with hoverflow | ⟨rounded, hrounded, htotal⟩
  · rw [hoverflow] at htell
    exact absurd htell (hanswered _)
  rw [hrounded] at htell
  have hfinite := (Decimal.quotient_rounding hquotient).amount.isFinite
  obtain ⟨total, hread, hnumber, -, hsame⟩ :=
    read_creditsText (Decimal.times_inFormat hfinite hrounded)
  exact ⟨_, total, htell, hread, hnumber, rounded, hsame, htotal⟩

/-- **How exact a total is.**  When a line that prices some units of an item has been accepted, and
some units of the item are asked for at any later time, then the total that the reply names, unless it
is too large, has a relative error of at most 10⁻²⁷.  It is exact if the price of a unit and the exact
total have finite expansions of at most 28 digits.  So if as many units are asked for as were priced,
the credits come back if this is true of them and of their quotient. -/
theorem total_accuracy (hprice : Request.ofLine? forms line = some (.price phrase item credits))
    (hunits : market.vocabulary.numeralOf phrase = .ok units)
    (hlearned : (market.ask forms line).1 = .learned)
    (hquestion : Request.ofLine? forms question = some (.cost asked item))
    (hcount : (market.after forms (line :: between)).vocabulary.numeralOf asked = .ok count)
    (hanswered : ∀ fault,
      ((market.after forms (line :: between)).ask forms question).1 ≠ .failed fault) :
    ∃ shown total, ((market.after forms (line :: between)).ask forms question).1 =
        .replied (asked ++ ' ' :: item ++ " is ".toList ++ shown ++ " Credits".toList) ∧
      Decimal.read shown = .ok total ∧
      |units.value * total.toRat - count.value * digitsValue credits| ≤
        (10 : ℚ) ^ (-27 : ℤ) * (count.value * digitsValue credits) ∧
      (IsShort ((digitsValue credits : ℚ) / units.value) →
        IsShort ((count.value : ℚ) * digitsValue credits / units.value) →
        total.toRat = count.value * digitsValue credits / units.value) ∧
      (count.value = units.value → IsShort ((digitsValue credits : ℚ) / units.value) →
        IsShort (digitsValue credits : ℚ) → total.toRat = digitsValue credits) := by
  have hpos : 0 < units.value := units.value_bounds.1
  obtain ⟨-, unitPrice, hunitPrice, hquotient⟩ :=
    (learns_of_learned hlearned).of_price hprice hunits
  have hlater := after_extends forms (market.ask forms line).2 between
  rw [after_cons] at hcount hanswered ⊢
  rw [ask, hquestion] at hanswered ⊢
  obtain ⟨shown, total, htell, hread, -, rounded, hsame, htotal⟩ :=
    tellCost_of_quotient hcount (hlater.prices _ _ hunitPrice) hquotient hanswered
  have hrounding := Decimal.quotient_rounding hquotient
  refine ⟨shown, total, htell, hread, ?_, fun hshort hmultiple => ?_, fun hsaid hshort hcredits => ?_⟩
  · rw [hsame]
    exact Decimal.two_roundings hpos hrounding htotal
  · rw [hsame]
    exact Decimal.two_roundings_exact hrounding htotal hshort hmultiple
  · have hcancel : (count.value : ℚ) * digitsValue credits / units.value = digitsValue credits := by
      rw [hsaid, mul_div_cancel_left₀ _ (by exact_mod_cast hpos.ne')]
    rw [hsame, Decimal.two_roundings_exact hrounding htotal hshort (hcancel.symm ▸ hcredits), hcancel]

/-- Three units of silver are priced, and then a line says nothing. -/
def thirdsOfSilver : List Text := ["glob glob glob Silver is 35 Credits".toList, "what".toList]

/-- What is known after the lines. -/
def silverMarket : Market :=
  { twoWords with
    prices := Table.ofList
      [("Silver".toList, .finite false 1166666666666666666666666667 (-26))] }

/-- Four units are asked for.  The total in the reply is not exact. -/
theorem total_accuracy_silver :
    ∃ total, Decimal.read "46.66666666666666666666666668".toList = .ok total ∧
      ((twoWords.after Form.all thirdsOfSilver).ask Form.all
          "how many credits is glob prok Silver?".toList).1 =
        .replied ("glob prok".toList ++ ' ' :: "Silver".toList ++ " is ".toList ++
          "46.66666666666666666666666668".toList ++ " Credits".toList) ∧
      |3 * total.toRat - 4 * 35| ≤ (10 : ℚ) ^ (-27 : ℤ) * (4 * 35) := by
  have hprice : Request.ofLine? Form.all "glob glob glob Silver is 35 Credits".toList =
      some (.price "glob glob glob".toList "Silver".toList "35".toList) := by
    decide +kernel
  have hunits : twoWords.vocabulary.numeralOf "glob glob glob".toList =
      .ok ⟨"III".toList, by decide⟩ :=
    Pattern.eq_ok_of_toOption (by decide +kernel)
  have hlearned : (twoWords.ask Form.all "glob glob glob Silver is 35 Credits".toList).1 =
      .learned := by
    rw [ask, hprice]
    decide +kernel
  have hquestion : Request.ofLine? Form.all "how many credits is glob prok Silver?".toList =
      some (.cost "glob prok".toList "Silver".toList) := by
    decide +kernel
  have hafter : twoWords.after Form.all thirdsOfSilver = silverMarket := by
    decide +kernel
  have hcount : (twoWords.after Form.all thirdsOfSilver).vocabulary.numeralOf "glob prok".toList =
      .ok ⟨"IV".toList, by decide⟩ := by
    rw [hafter]
    exact Pattern.eq_ok_of_toOption (by decide +kernel)
  have hreply : ((twoWords.after Form.all thirdsOfSilver).ask Form.all
      "how many credits is glob prok Silver?".toList).1 = .replied ("glob prok".toList ++ ' ' ::
        "Silver".toList ++ " is ".toList ++ "46.66666666666666666666666668".toList ++
        " Credits".toList) := by
    rw [hafter, ask, hquestion]
    decide +kernel
  have hanswered : ∀ fault, ((twoWords.after Form.all thirdsOfSilver).ask Form.all
      "how many credits is glob prok Silver?".toList).1 ≠ .failed fault := by
    intro fault h
    rw [hreply] at h
    cases h
  obtain ⟨shown, total, hshown, hread, herror, -⟩ :=
    total_accuracy hprice hunits hlearned hquestion hcount hanswered
  have hsame := Outcome.replied.inj (hreply.symm.trans hshown)
  obtain rfl := List.append_cancel_left (List.append_cancel_right hsame)
  have hthree : (⟨"III".toList, by decide⟩ : Numeral).value = 3 := by decide
  have hfour : (⟨"IV".toList, by decide⟩ : Numeral).value = 4 := by decide
  have hcredits : digitsValue "35".toList = 35 := by decide +kernel
  rw [hthree, hfour, hcredits] at herror
  exact ⟨total, hread, hreply, by exact_mod_cast herror⟩

end Tradespeak.Market
