import Tradespeak.Proofs.Decimal.Monotone
import Tradespeak.Proofs.Market.Accuracy

/-!
# Rounding never inverts prices

* `Market.Offer` — a line that priced some units of an item, and was accepted.
* `Market.Inquiry` — a question, at any later time, for the cost of some units of the item.
* `Market.Offer.Stores`, `Market.Inquiry.Shows` — the number that the prices hold afterwards, and the
  number that the reply names.
* `Market.Offer.exists_stores` — the price of a unit is the quotient, rounded.
* `Market.Inquiry.exists_shows` — the total is the price of a unit, taken several times and rounded
  again.

Principal result: `Market.prices_keep_order`.
-/

set_option autoImplicit false

namespace Tradespeak.Market

open Decimal (IsRounding)

variable {forms : List Form}

/-- **An offer**: a line that prices some units of an item, in a market that accepts it. -/
structure Offer (forms : List Form) where
  market : Market
  line : Text
  phrase : Text
  item : Text
  credits : Text
  units : Numeral
  line_prices : Request.ofLine? forms line = some (.price phrase item credits)
  phrase_says : market.vocabulary.numeralOf phrase = .ok units
  accepted : (market.ask forms line).1 = .learned

/-- The market once the offer and the lines have been said. -/
def Offer.later (offer : Offer forms) (between : List Text) : Market :=
  offer.market.after forms (offer.line :: between)

/-- **An inquiry** about an offer: a question for the cost of some units of the item, when any lines
have been said since.  The total is not too large. -/
structure Inquiry (offer : Offer forms) where
  between : List Text
  question : Text
  asked : Text
  count : Numeral
  question_asks : Request.ofLine? forms question = some (.cost asked offer.item)
  asked_says : (offer.later between).vocabulary.numeralOf asked = .ok count
  not_failed : ∀ fault, ((offer.later between).ask forms question).1 ≠ .failed fault

/-- The number is the price of a unit that the offer leaves behind. -/
def Offer.Stores (offer : Offer forms) (price : ℚ) : Prop :=
  ∃ unitPrice, (offer.later []).prices.get? offer.item = some unitPrice ∧
    unitPrice.IsFinite ∧ unitPrice.toRat = price

/-- The number is the total in the reply. -/
def Inquiry.Shows {offer : Offer forms} (inquiry : Inquiry offer) (amount : ℚ) : Prop :=
  ∃ shown total, ((offer.later inquiry.between).ask forms inquiry.question).1 =
      .replied (inquiry.asked ++ ' ' :: offer.item ++ " is ".toList ++ shown ++
        " Credits".toList) ∧
    Decimal.read shown = .ok total ∧ total.IsFinite ∧ total.toRat = amount

/-- The price of a unit is the quotient of the credits by the units, rounded to 28 digits. -/
theorem Offer.exists_quotient (offer : Offer forms) : ∃ unitPrice,
    (offer.later []).prices.get? offer.item = some unitPrice ∧
      Decimal.quotient (digitsValue offer.credits) offer.units.value = .ok unitPrice :=
  ((learns_of_learned offer.accepted).of_price offer.line_prices offer.phrase_says).2

/-- **What an inquiry about an offer shows** is the price of a unit, which is kept, taken as often as
it asks and rounded to 28 digits. -/
theorem Inquiry.exists_shows {offer : Offer forms} (inquiry : Inquiry offer) {unitPrice : Decimal}
    (hprice : (offer.later []).prices.get? offer.item = some unitPrice)
    (hquotient : Decimal.quotient (digitsValue offer.credits) offer.units.value = .ok unitPrice) :
    ∃ rounded : Decimal, inquiry.Shows rounded.toRat ∧
      IsRounding (inquiry.count.value * unitPrice.toRat) rounded := by
  have hkept : (offer.later inquiry.between).prices.get? offer.item = some unitPrice := by
    have hextends := after_extends forms (offer.later []) inquiry.between
    rw [Offer.later, ← after_append] at hextends
    exact hextends.prices _ _ hprice
  have hask : ((offer.later inquiry.between).ask forms inquiry.question).1 =
      (offer.later inquiry.between).tellCost inquiry.asked offer.item := by
    rw [ask, inquiry.question_asks]
    rfl
  have hanswered := inquiry.not_failed
  rw [hask] at hanswered
  obtain ⟨shown, total, htell, hread, hnumber, rounded, hsame, htotal⟩ :=
    tellCost_of_quotient inquiry.asked_says hkept hquotient hanswered
  exact ⟨rounded, ⟨shown, total, hask.trans htell, hread, hnumber, hsame⟩, htotal⟩

/-- A question for a cost does not fail if the total is not too large. -/
theorem ask_not_failed {market : Market} {question asked item : Text} {count : Numeral}
    {unitPrice total : Decimal} (hquestion : Request.ofLine? forms question = some (.cost asked item))
    (hcount : market.vocabulary.numeralOf asked = .ok count)
    (hprice : market.prices.get? item = some unitPrice)
    (htotal : unitPrice.times count.value = .ok total) (fault : Decimal.Fault) :
    (market.ask forms question).1 ≠ .failed fault := by
  have hask : (market.ask forms question).1 = market.tellCost asked item := by
    rw [ask, hquestion]
    rfl
  rw [hask, tellCost_of_price hcount hprice, htotal]
  simp

/-- **Rounding never inverts prices.**  When two lines price as many units, not necessarily of one item
or in one market, and the credits of the first are at most those of the second, then so are the prices
of a unit that they leave behind.  When some units of the first item are asked for and at least as many
of the second one, at any later time, then the total that the first reply names is at most the one that
the second reply names.  It is less if fewer units are asked for and they cost anything. -/
theorem prices_keep_order (offer offer' : Offer forms)
    (hunits : offer.units.value = offer'.units.value)
    (hcredits : digitsValue offer.credits ≤ digitsValue offer'.credits) :
    (∃ price price', offer.Stores price ∧ offer'.Stores price' ∧ price ≤ price') ∧
      ∀ (inquiry : Inquiry offer) (inquiry' : Inquiry offer'),
        inquiry.count.value ≤ inquiry'.count.value →
        ∃ amount amount', inquiry.Shows amount ∧ inquiry'.Shows amount' ∧ amount ≤ amount' ∧
          (0 < digitsValue offer.credits → inquiry.count.value < inquiry'.count.value →
            amount < amount') := by
  obtain ⟨unitPrice, hprice, hquotient⟩ := offer.exists_quotient
  obtain ⟨unitPrice', hprice', hquotient'⟩ := offer'.exists_quotient
  have hrounding := Decimal.quotient_rounding hquotient
  have hrounding' := Decimal.quotient_rounding hquotient'
  have hpos : (0 : ℚ) < offer.units.value := by exact_mod_cast offer.units.value_bounds.1
  have hprices : unitPrice.toRat ≤ unitPrice'.toRat := by
    apply hrounding.mono hrounding'
    rw [← hunits]
    gcongr
  refine ⟨⟨_, _, ⟨_, hprice, hrounding.amount.isFinite, rfl⟩,
    ⟨_, hprice', hrounding'.amount.isFinite, rfl⟩, hprices⟩, ?_⟩
  intro inquiry inquiry' hcount
  obtain ⟨total, hshows, htotal⟩ := inquiry.exists_shows hprice hquotient
  obtain ⟨total', hshows', htotal'⟩ := inquiry'.exists_shows hprice' hquotient'
  refine ⟨_, _, hshows, hshows', ?_, ?_⟩
  · exact Decimal.totals_le hrounding.amount.toRat_nonneg hprices htotal htotal' hcount
  · intro hpositive hfewer
    have hunitPrice : 0 < unitPrice.toRat := by
      apply hrounding.pos
      have : (0 : ℚ) < digitsValue offer.credits := by exact_mod_cast hpositive
      positivity
    have hfew : inquiry'.count.value ≤ 10 ^ (Decimal.precision - 1) :=
      inquiry'.count.value_bounds.2.trans (by decide)
    exact Decimal.totals_lt hunitPrice hprices htotal htotal' hfewer hfew

/-- Three units of silver for 35 credits.  The price of a unit is rounded up. -/
def silverLine : Text := "glob glob glob Silver is 35 Credits".toList

/-- Three units of gold for 36 credits. -/
def goldLine : Text := "glob glob glob Gold is 36 credits".toList

theorem silverLine_prices : Request.ofLine? Form.all silverLine =
    some (.price "glob glob glob".toList "Silver".toList "35".toList) := by
  decide +kernel

theorem goldLine_prices : Request.ofLine? Form.all goldLine =
    some (.price "glob glob glob".toList "Gold".toList "36".toList) := by
  decide +kernel

/-- The line about silver is accepted. -/
def silverOffer : Offer Form.all where
  market := twoWords
  line := silverLine
  phrase := "glob glob glob".toList
  item := "Silver".toList
  credits := "35".toList
  units := ⟨"III".toList, by decide⟩
  line_prices := silverLine_prices
  phrase_says := Pattern.eq_ok_of_toOption (by decide +kernel)
  accepted := by
    rw [ask, silverLine_prices]
    decide +kernel

/-- The line about gold is accepted. -/
def goldOffer : Offer Form.all where
  market := twoWords
  line := goldLine
  phrase := "glob glob glob".toList
  item := "Gold".toList
  credits := "36".toList
  units := ⟨"III".toList, by decide⟩
  line_prices := goldLine_prices
  phrase_says := Pattern.eq_ok_of_toOption (by decide +kernel)
  accepted := by
    rw [ask, goldLine_prices]
    decide +kernel

theorem silverOffer_later : silverOffer.later [] = silverMarket := by
  show (twoWords.ask Form.all silverLine).2 = silverMarket
  rw [ask, silverLine_prices]
  decide +kernel

/-- What is known once gold has a price. -/
def goldMarket : Market :=
  { twoWords with prices := Table.ofList [("Gold".toList, .finite false 12 0)] }

theorem goldOffer_later : goldOffer.later [] = goldMarket := by
  show (twoWords.ask Form.all goldLine).2 = goldMarket
  rw [ask, goldLine_prices]
  decide +kernel

theorem silverQuestion_asks : Request.ofLine? Form.all
    "how many credits is glob prok Silver?".toList =
      some (.cost "glob prok".toList "Silver".toList) := by
  decide +kernel

theorem goldQuestion_asks : Request.ofLine? Form.all
    "how many credits is prok Gold?".toList = some (.cost "prok".toList "Gold".toList) := by
  decide +kernel

theorem fourWords_say : twoWords.vocabulary.numeralOf "glob prok".toList =
    .ok ⟨"IV".toList, by decide⟩ :=
  Pattern.eq_ok_of_toOption (by decide +kernel)

theorem fiveWords_say : twoWords.vocabulary.numeralOf "prok".toList = .ok ⟨"V".toList, by decide⟩ :=
  Pattern.eq_ok_of_toOption (by decide +kernel)

/-- Four units of silver are asked for.  The total is rounded up. -/
def silverInquiry : Inquiry silverOffer where
  between := []
  question := "how many credits is glob prok Silver?".toList
  asked := "glob prok".toList
  count := ⟨"IV".toList, by decide⟩
  question_asks := silverQuestion_asks
  asked_says := by
    rw [silverOffer_later]
    exact fourWords_say
  not_failed := by
    rw [silverOffer_later]
    have htotal : (Decimal.finite false 1166666666666666666666666667 (-26)).times 4 =
        .ok (.finite false 4666666666666666666666666668 (-26)) := by
      decide +kernel
    exact ask_not_failed silverQuestion_asks fourWords_say rfl htotal

/-- Five units of gold are asked for. -/
def goldInquiry : Inquiry goldOffer where
  between := []
  question := "how many credits is prok Gold?".toList
  asked := "prok".toList
  count := ⟨"V".toList, by decide⟩
  question_asks := goldQuestion_asks
  asked_says := by
    rw [goldOffer_later]
    exact fiveWords_say
  not_failed := by
    rw [goldOffer_later]
    have htotal : (Decimal.finite false 12 0).times 5 = .ok (.finite false 60 0) := by
      decide +kernel
    exact ask_not_failed goldQuestion_asks fiveWords_say rfl htotal

/-- Gold is dearer than silver, and five units of it cost more than four of silver. -/
theorem prices_keep_order_gold :
    (∃ price price', silverOffer.Stores price ∧ goldOffer.Stores price' ∧ price ≤ price') ∧
      ∃ amount amount', silverInquiry.Shows amount ∧ goldInquiry.Shows amount' ∧
        amount < amount' := by
  have hcredits : digitsValue silverOffer.credits ≤ digitsValue goldOffer.credits := by
    decide +kernel
  obtain ⟨hprices, hamounts⟩ := prices_keep_order silverOffer goldOffer rfl hcredits
  refine ⟨hprices, ?_⟩
  obtain ⟨amount, amount', hshows, hshows', -, hless⟩ :=
    hamounts silverInquiry goldInquiry (by decide)
  exact ⟨amount, amount', hshows, hshows', hless (by decide +kernel) (by decide)⟩

end Tradespeak.Market
