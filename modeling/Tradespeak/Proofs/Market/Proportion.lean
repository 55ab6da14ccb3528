import Tradespeak.Proofs.Decimal.Overflow
import Tradespeak.Proofs.Market.CostQuestion
import Tradespeak.Proofs.Market.Run

/-!
# Prices in proportion

Two lines that price an item in proportion say the same, whatever numbers they use.

* `Decimal.quotientExponent_mul_right`, `roundDiv_mul_right` — neither the place of the last digit of a
  quotient nor its rounding is changed by a factor that both numbers get.
* `Decimal.quotient_eq_of_proportion` — so that a quotient, with all its digits and its exponent, depends
  on the ratio of the numbers alone.
* `Market.PriceEnds`, `Market.setPrice_ends` — how a line that prices an item ends when its phrase says a
  number.

Principal result: `Market.proportional_prices` — lines that price an item in proportion are
interchangeable.
-/

set_option autoImplicit false

namespace Tradespeak

/-! ## Quotients -/

/-- A factor that both numbers get changes neither the whole part nor which half the rest is in. -/
theorem roundDiv_mul_right (a b : ℕ) {k : ℕ} (hk : 0 < k) :
    roundDiv (a * k) (b * k) = roundDiv a b := by
  unfold roundDiv
  rw [Nat.mul_div_mul_right a b hk, Nat.mul_mod_mul_right, ← Nat.mul_assoc]
  simp only [Nat.mul_lt_mul_right hk]

namespace Decimal

/-- The place of the last digit of a quotient is not changed by a factor that both numbers get. -/
theorem quotientExponent_mul_right {a b k : ℕ} (ha : 0 < a) (hb : 0 < b) (hk : 0 < k) :
    quotientExponent (a * k) (b * k) = quotientExponent a b := by
  obtain ⟨hlow, hhigh⟩ := quotientExponent_spec ha hb
  obtain ⟨hlow', hhigh'⟩ := quotientExponent_spec (Nat.mul_pos ha hk) (Nat.mul_pos hb hk)
  have hratio : ((a * k : ℕ) : ℚ) / (b * k : ℕ) = a / b := by
    push_cast
    exact mul_div_mul_right _ _ (by positivity)
  rw [hratio] at hlow' hhigh'
  exact le_antisymm (exponent_unique hhigh hlow') (exponent_unique hhigh' hlow)

/-- A quotient is not changed by a factor that both numbers get. -/
theorem quotient_mul_right (a : ℕ) {b k : ℕ} (hb : 0 < b) (hk : 0 < k) :
    quotient (a * k) (b * k) = quotient a b := by
  rcases Nat.eq_zero_or_pos a with rfl | ha
  · simp [quotient, hb.ne', hk.ne']
  have hexponent := quotientExponent_mul_right ha hb hk
  unfold quotient
  rw [if_neg (Nat.mul_pos hb hk).ne', if_neg (Nat.mul_pos ha hk).ne', if_neg hb.ne', if_neg ha.ne',
    hexponent]
  have hnumerator : ∀ p, a * k * p = a * p * k := fun p => Nat.mul_right_comm a k p
  have hdenominator : ∀ p, b * k * p = b * p * k := fun p => Nat.mul_right_comm b k p
  simp only [hnumerator, hdenominator, Nat.mul_mod_mul_right, Nat.mul_div_mul_right _ _ hk,
    roundDiv_mul_right _ _ hk, Nat.mul_eq_zero, hk.ne', or_false]

/-- **A quotient depends on the ratio alone**: with every digit and with its exponent, and also where
it is too large. -/
theorem quotient_eq_of_proportion {a b a' b' : ℕ} (hb : 0 < b) (hb' : 0 < b')
    (h : a * b' = a' * b) : quotient a b = quotient a' b' :=
  calc quotient a b = quotient (a * b') (b * b') := (quotient_mul_right a hb hb').symm
    _ = quotient (a' * b) (b' * b) := by rw [h, Nat.mul_comm b b']
    _ = quotient a' b' := quotient_mul_right a' hb' hb

end Decimal

/-! ## Prices -/

namespace Market

variable {forms : List Form} {market : Market} {line line' phrase phrase' item credits credits' : Text}
  {units units' : Numeral}

/-- A line that prices an item does so by the quotient alone, once its phrase says a number. -/
theorem setPrice_congr (hunits : market.vocabulary.numeralOf phrase = .ok units)
    (hunits' : market.vocabulary.numeralOf phrase' = .ok units')
    (hquotient : Decimal.quotient (digitsValue credits) units.value =
      Decimal.quotient (digitsValue credits') units'.value) :
    market.setPrice line phrase item credits = market.setPrice line' phrase' item credits' := by
  have hpos : 0 < units.value := units.value_bounds.1
  have hpos' : 0 < units'.value := units'.value_bounds.1
  simp only [setPrice, hunits, hunits', hquotient, if_neg hpos.ne', if_neg hpos'.ne']

/-- **How a line that prices an item ends**, when its phrase says a number: the market after it differs
by the price of the item, or not at all. -/
inductive PriceEnds (market : Market) (item : Text) (q : ℚ) : Outcome × Market → Prop
  /-- The price is too large. -/
  | overflow : PriceEnds market item q (.failed .overflow, market)
  /-- The item has a price. -/
  | priced : PriceEnds market item q (.refused (.pricedItem item), market)
  /-- The price is the number, rounded to 28 digits. -/
  | learned {unitPrice : Decimal} (hrounding : Decimal.IsRounding q unitPrice) :
      PriceEnds market item q
        (.learned, { market with prices := market.prices.insert item unitPrice })

theorem setPrice_ends (hunits : market.vocabulary.numeralOf phrase = .ok units) :
    PriceEnds market item ((digitsValue credits : ℚ) / units.value)
      (market.setPrice line phrase item credits) := by
  have hpos : 0 < units.value := units.value_bounds.1
  simp only [setPrice, hunits, if_neg hpos.ne']
  cases hprice : Decimal.quotient (digitsValue credits) units.value with
  | error fault =>
    obtain ⟨rfl, -⟩ := (Decimal.quotient_eq_error_iff hpos).1 hprice
    exact .overflow
  | ok unitPrice =>
    show PriceEnds market item _ (if market.prices.contains item then _ else _)
    split
    · exact .priced
    · exact .learned (Decimal.quotient_rounding hprice)

/-- **Prices in proportion are interchangeable.**  When two lines price one item, and the credits of the
first are to its units as those of the second are to its own, then they have the same outcome in every
market, and leave the same behind: the arithmetic of both fails, since the price is too large, or both
are refused, since the item has a price, or both put the same decimal into the prices, with the same
digits and the same exponent.  So whatever is said afterwards has the same outcomes. -/
theorem proportional_prices
    (hline : Request.ofLine? forms line = some (.price phrase item credits))
    (hline' : Request.ofLine? forms line' = some (.price phrase' item credits'))
    (hunits : market.vocabulary.numeralOf phrase = .ok units)
    (hunits' : market.vocabulary.numeralOf phrase' = .ok units')
    (hproportion : digitsValue credits * units'.value = digitsValue credits' * units.value) :
    market.ask forms line = market.ask forms line' ∧
      PriceEnds market item ((digitsValue credits : ℚ) / units.value) (market.ask forms line) ∧
      ∀ later, market.history forms (line :: later) = market.history forms (line' :: later) := by
  have hask : market.ask forms line = market.setPrice line phrase item credits := by
    rw [ask, hline]
    rfl
  have hask' : market.ask forms line' = market.setPrice line' phrase' item credits' := by
    rw [ask, hline']
    rfl
  have hsame : market.ask forms line = market.ask forms line' := by
    rw [hask, hask']
    apply setPrice_congr hunits hunits'
    exact Decimal.quotient_eq_of_proportion units.value_bounds.1 units'.value_bounds.1 hproportion
  refine ⟨hsame, ?_, fun later => ?_⟩
  · rw [hask]
    exact setPrice_ends hunits
  · rw [history, history, hsame]

/-- Three units for 35 credits. -/
def threeForFew : Text := "glob glob glob Silver is 35 Credits".toList

/-- Six units for 70 credits, which are written with a zero before them and with the digits of another
script. -/
def sixForMore : Text := "prok glob Silver is 0\u0667\u0660 credits".toList

/-- The price of a unit does not tell how many units were priced. -/
theorem proportional_prices_silver :
    Request.ofLine? Form.all threeForFew =
        some (.price "glob glob glob".toList "Silver".toList "35".toList) ∧
      Request.ofLine? Form.all sixForMore =
        some (.price "prok glob".toList "Silver".toList "0\u0667\u0660".toList) ∧
      twoWords.ask Form.all threeForFew = twoWords.ask Form.all sixForMore ∧
      (twoWords.ask Form.all sixForMore).2.prices.get? "Silver".toList =
        some (.finite false 1166666666666666666666666667 (-26)) := by
  have hline : Request.ofLine? Form.all threeForFew =
      some (.price "glob glob glob".toList "Silver".toList "35".toList) := by
    decide +kernel
  have hline' : Request.ofLine? Form.all sixForMore =
      some (.price "prok glob".toList "Silver".toList "0\u0667\u0660".toList) := by
    decide +kernel
  have hunits : twoWords.vocabulary.numeralOf "glob glob glob".toList =
      .ok ⟨"III".toList, by decide⟩ :=
    Pattern.eq_ok_of_toOption (by decide +kernel)
  have hunits' : twoWords.vocabulary.numeralOf "prok glob".toList =
      .ok ⟨"VI".toList, by decide⟩ :=
    Pattern.eq_ok_of_toOption (by decide +kernel)
  obtain ⟨hsame, -, -⟩ := proportional_prices hline hline' hunits hunits' (by decide +kernel)
  refine ⟨hline, hline', hsame, ?_⟩
  rw [← hsame]
  decide +kernel

end Market

end Tradespeak
