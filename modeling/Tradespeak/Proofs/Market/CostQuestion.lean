import Tradespeak.Proofs.Decimal.PlainForm
import Tradespeak.Proofs.Market.Step
import Tradespeak.Proofs.Numeral.Canonical
import Tradespeak.Proofs.Request.CostQuestion
import Tradespeak.Proofs.Request.PriceLine
import Tradespeak.Proofs.Vocabulary.Spelling

/-!
# The answer to a question for a cost

* `Decimal.times_unitPrice` — a multiple of a unit price is rounded, unless it is too large.
* `Learns.of_price`, `Learns.of_priceLine` — what a line that prices an item leaves behind when it is
  accepted.
* `ask_costQuestion` — the question asks for a number or for a cost.
* `tellCost_of_price` — the cost of an item that is priced.

Principal result: `costQuestion_outcome` — what is priced can be asked for under the same name.
-/

set_option autoImplicit false

namespace Tradespeak

/-- A multiple of a unit price is rounded to 28 digits, unless it is too large.  It is never too
small for them, since a numeral has at most four digits. -/
theorem Decimal.times_unitPrice {numerator : ℕ} {numeral : Numeral} {unitPrice : Decimal}
    (h : quotient numerator numeral.value = .ok unitPrice) (count : ℕ) :
    unitPrice.times count = .error .overflow ∨ ∃ total, unitPrice.times count = .ok total ∧
      IsRounding (count * unitPrice.toRat) total := by
  obtain ⟨coefficient, exponent, rfl, hexponent⟩ := quotient_exponent h
  have hdigits : digitCount numeral.value ≤ 4 :=
    (digitCount_le_iff (by decide)).2 (numeral.value_bounds.2.trans_lt (by decide))
  have hmin : minExponent ≤ exponent := by
    have : minExponent ≤ -(4 + precision : ℤ) := by decide
    omega
  rcases fit_cases false (count * coefficient) exponent with ⟨total, htotal⟩ | hoverflow
  · exact Or.inr ⟨total, htotal, times_rounding hmin htotal⟩
  · exact Or.inl hoverflow

namespace Market

variable {market next : Market} {ws vs : List Text} {phrase asked item credits : Text}
  {numeral count : Numeral} {unitPrice : Decimal}

/-- What a line that prices an item leaves behind when it is accepted. -/
theorem Learns.of_price {forms : List Form} {line : Text} (h : Learns forms market line next)
    (hprice : Request.ofLine? forms line = some (.price phrase item credits))
    (hnumeral : market.vocabulary.numeralOf phrase = .ok numeral) :
    next.vocabulary = market.vocabulary ∧ ∃ unitPrice, next.prices.get? item = some unitPrice ∧
      Decimal.quotient (digitsValue credits) numeral.value = .ok unitPrice := by
  cases h with
  | word hline _ _ => cases hprice.symm.trans hline
  | price hline hsaid _ hquotient _ =>
    cases hprice.symm.trans hline
    cases hnumeral.symm.trans hsaid
    exact ⟨rfl, _, by rw [Table.get?_insert, if_pos rfl], hquotient⟩

theorem Learns.of_priceLine (h : Learns Form.all market (priceLine phrase item credits) next)
    (hphrase : Phrase ws phrase) (hitem : IsItemName item)
    (hcredits : IsRun isDecimalDigit credits)
    (hnumeral : market.vocabulary.numeralOf phrase = .ok numeral) :
    next.vocabulary = market.vocabulary ∧ ∃ unitPrice, next.prices.get? item = some unitPrice ∧
      Decimal.quotient (digitsValue credits) numeral.value = .ok unitPrice :=
  h.of_price (Request.ofLine?_priceLine hphrase hitem hcredits) hnumeral

/-! ## The question -/

/-- The question asks for a number if it is read so, else for a cost. -/
theorem ask_costQuestion (market : Market) (hasked : Phrase vs asked) (hitem : IsItemName item) :
    (∃ other, Form.number.read (costQuestion asked item) = some (.number other) ∧
        market.ask Form.all (costQuestion asked item) = (market.tellNumber other, market)) ∨
      Form.number.read (costQuestion asked item) = none ∧
        market.ask Form.all (costQuestion asked item) = (market.tellCost asked item, market) := by
  have hquestion := Request.ofLine?_costQuestion hasked hitem
  cases hnumber : Form.number.read (costQuestion asked item) with
  | none =>
    rw [hnumber, Option.none_or] at hquestion
    exact Or.inr ⟨rfl, by rw [ask, hquestion]; rfl⟩
  | some request =>
    rw [hnumber, Option.some_or] at hquestion
    obtain ⟨hform, -⟩ := Form.read_spec hnumber
    cases request with
    | number other => exact Or.inl ⟨other, rfl, by rw [ask, hquestion]; rfl⟩
    | teach | price | cost => cases hform

theorem tellNumber_ne_unpricedItem (market : Market) (phrase item : Text) :
    market.tellNumber phrase ≠ .refused (.unpricedItem item) := by
  unfold tellNumber
  split
  · rename_i refusal hrefusal
    rcases Vocabulary.numeralOf_eq_error hrefusal with ⟨w, rfl⟩ | ⟨s, rfl⟩ <;> simp
  · simp

/-- The cost of an item that is priced. -/
theorem tellCost_of_price (hcount : market.vocabulary.numeralOf asked = .ok count)
    (hprice : market.prices.get? item = some unitPrice) : market.tellCost asked item =
      match unitPrice.times count.value with
      | .error fault => .failed fault
      | .ok total => .replied (asked ++ ' ' :: item ++ " is ".toList ++ creditsText total
          ++ " Credits".toList) := by
  cases htimes : unitPrice.times count.value <;> simp only [tellCost, hcount, hprice, htimes]

/-- **What is priced can be asked for under the same name.**  When a line that prices an item is
accepted, the price is the credits divided by the number of units, rounded to 28 digits, and a
question for any number of units of the item never says that it has no price.  Unless it is read as
a question for a number, or the total is too large, the reply is the price as often as the phrase
says, rounded and written without an exponent: digits with or without a point, no zero among them that
could be left out, that are read back as the total. -/
theorem costQuestion_outcome (hphrase : Phrase ws phrase) (hasked : Phrase vs asked)
    (hitem : IsItemName item) (hcredits : IsRun isDecimalDigit credits)
    (hnumeral : market.vocabulary.numeralOf phrase = .ok numeral)
    (hcount : market.vocabulary.numeralOf asked = .ok count)
    (hlearned : market.ask Form.all (priceLine phrase item credits) = (.learned, next)) :
    ∃ unitPrice, next.prices.get? item = some unitPrice ∧
      Decimal.IsRounding ((digitsValue credits : ℚ) / numeral.value) unitPrice ∧
      (∀ other, (next.ask Form.all (costQuestion asked item)).1 ≠
        .refused (.unpricedItem other)) ∧
      (Form.number.read (costQuestion asked item) = none →
        unitPrice.times count.value ≠ .error .overflow →
        ∃ total, unitPrice.times count.value = .ok total ∧
          Decimal.IsRounding (count.value * unitPrice.toRat) total ∧
          IsPlain (creditsText total) ∧ IsTidy (creditsText total) ∧
          (∃ shown, Decimal.read (creditsText total) = .ok shown ∧ shown.toRat = total.toRat) ∧
          next.ask Form.all (costQuestion asked item) =
            (.replied (asked ++ ' ' :: item ++ " is ".toList ++ creditsText total ++
              " Credits".toList), next)) := by
  have hlearns : Learns Form.all market (priceLine phrase item credits) next := by
    rcases ask_cases Form.all market (priceLine phrase item credits) with
      ⟨hother, -⟩ | ⟨-, hlearns⟩
    · rw [hlearned] at hother
      exact absurd rfl hother
    · rwa [hlearned] at hlearns
  obtain ⟨hwords, unitPrice, hprice, hquotient⟩ :=
    hlearns.of_priceLine hphrase hitem hcredits hnumeral
  rw [← hwords] at hcount
  refine ⟨unitPrice, hprice, Decimal.quotient_rounding hquotient, fun other => ?_,
    fun hnumber hoverflow => ?_⟩
  · rcases ask_costQuestion next hasked hitem with ⟨phrase', -, hask⟩ | ⟨-, hask⟩
    · rw [hask]
      exact tellNumber_ne_unpricedItem next phrase' other
    · rw [hask]
      rcases Decimal.times_unitPrice hquotient count.value with hoverflow | ⟨total, htotal, -⟩
      · simp [tellCost_of_price hcount hprice, hoverflow]
      · simp [tellCost_of_price hcount hprice, htotal]
  · obtain ⟨total, htotal, hrounding⟩ :=
      (Decimal.times_unitPrice hquotient count.value).resolve_left hoverflow
    rcases ask_costQuestion next hasked hitem with ⟨phrase', hread, -⟩ | ⟨-, hask⟩
    · rw [hnumber] at hread
      cases hread
    · have hformat : total.InFormat :=
        Decimal.times_inFormat (Decimal.quotient_rounding hquotient).amount.isFinite htotal
      obtain ⟨shown, hshown, -, -, hvalue⟩ := read_creditsText hformat
      refine ⟨total, htotal, hrounding, creditsText_isPlain hrounding.amount,
        creditsText_isTidy_of_amount hformat hrounding.amount, ⟨shown, hshown, hvalue⟩, ?_⟩
      rw [hask, tellCost_of_price hcount hprice, htotal]

/-- A market that knows two words. -/
def twoWords : Market :=
  opening (Table.ofList [("glob".toList, some "I".toList), ("prok".toList, some "V".toList)])
    Table.empty

/-- The name of an item that holds what comes after items in the lines. -/
def rock : Text := "Rock is it? Gold is 7 credits".toList

/-- Three units of such an item are priced at 35 credits, and four of them are asked for. -/
theorem costQuestion_outcome_rock :
    Form.number.read (costQuestion "glob prok".toList rock) = none ∧
      ∃ next unitPrice total,
        twoWords.ask Form.all (priceLine "glob glob glob".toList rock "35".toList) =
          (.learned, next) ∧
        Decimal.IsRounding ((digitsValue "35".toList : ℚ) / (3 : ℕ)) unitPrice ∧
        unitPrice.times 4 = .ok total ∧ Decimal.IsRounding ((4 : ℕ) * unitPrice.toRat) total ∧
        IsTidy "46.66666666666666666666666668".toList ∧
        (∃ shown, Decimal.read "46.66666666666666666666666668".toList = .ok shown ∧
          shown.toRat = total.toRat) ∧
        next.ask Form.all (costQuestion "glob prok".toList rock) =
          (.replied ("glob prok".toList ++ ' ' :: rock ++ " is ".toList ++
            "46.66666666666666666666666668".toList ++ " Credits".toList), next) := by
  have hglob : IsRun isLower "glob".toList := ⟨by decide, List.all_eq_true.1 (by decide)⟩
  have hprok : IsRun isLower "prok".toList := ⟨by decide, List.all_eq_true.1 (by decide)⟩
  have hphrase : Phrase ["glob".toList, "glob".toList, "glob".toList] "glob glob glob".toList := by
    have hsplit : "glob glob glob".toList =
        "glob".toList ++ ([' '] ++ ("glob".toList ++ ([' '] ++ "glob".toList))) := by
      decide +kernel
    rw [hsplit]
    exact .cons hglob isRun_space (.cons hglob isRun_space (.word hglob))
  have hasked : Phrase ["glob".toList, "prok".toList] "glob prok".toList := by
    have hsplit : "glob prok".toList = "glob".toList ++ ([' '] ++ "prok".toList) := by
      decide +kernel
    rw [hsplit]
    exact .cons hglob isRun_space (.word hprok)
  have hitem : IsItemName rock :=
    ⟨⟨'R', rock.tail, by decide, by decide +kernel⟩, by decide +kernel, by decide +kernel⟩
  have hcredits : IsRun isDecimalDigit "35".toList :=
    ⟨by decide, List.all_eq_true.1 (by decide +kernel)⟩
  have hnumeral : twoWords.vocabulary.numeralOf "glob glob glob".toList =
      .ok ⟨"III".toList, by decide⟩ :=
    Pattern.eq_ok_of_toOption (by decide +kernel)
  have hcount : twoWords.vocabulary.numeralOf "glob prok".toList =
      .ok ⟨"IV".toList, by decide⟩ :=
    Pattern.eq_ok_of_toOption (by decide +kernel)
  have hnumber : Form.number.read (costQuestion "glob prok".toList rock) = none := by
    decide +kernel
  have hlearned : twoWords.ask Form.all (priceLine "glob glob glob".toList rock "35".toList) =
      (.learned, (twoWords.ask Form.all
        (priceLine "glob glob glob".toList rock "35".toList)).2) :=
    Prod.ext (by decide +kernel) rfl
  obtain ⟨unitPrice, hprice, hrounding, -, hreply⟩ :=
    costQuestion_outcome hphrase hasked hitem hcredits hnumeral hcount hlearned
  have hunit : (twoWords.ask Form.all (priceLine "glob glob glob".toList rock
      "35".toList)).2.prices.get? rock =
        some (.finite false 1166666666666666666666666667 (-26)) := by
    decide +kernel
  cases hunit.symm.trans hprice
  obtain ⟨total, htotal, htotals, -, htidy, hread, hask⟩ := hreply hnumber (by decide +kernel)
  have hshown : creditsText total = "46.66666666666666666666666668".toList := by
    have hfour : (Decimal.finite false 1166666666666666666666666667 (-26)).times
        (⟨"IV".toList, by decide⟩ : Numeral).value =
          .ok (.finite false 4666666666666666666666666668 (-26)) :=
      Pattern.eq_ok_of_toOption (by decide +kernel)
    cases hfour.symm.trans htotal
    decide +kernel
  rw [hshown] at htidy hread hask
  exact ⟨hnumber, _, _, total, hlearned, hrounding, htotal, htotals, htidy, hread, hask⟩

end Market

end Tradespeak
