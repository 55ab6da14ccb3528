import Tradespeak.Proofs.Market.Permanence

/-!
# Markets that know the same

* `Agrees` — two markets know the same words, taken digits and prices, in whatever order they were
  put in.
* `Vocabulary.numeralOf_congr` — the numeral of a phrase depends on nothing but its words.

Principal results: `Agrees.ask` — a line has the same outcome in markets that know the same, and they
know the same after it; `Agrees.history` — so it is with lines said one after another.
-/

set_option autoImplicit false

namespace Tradespeak

namespace Vocabulary

variable {vocabulary other : Vocabulary} {ws : List Text} {phrase : Text}

theorem spell_congr (h : ∀ w ∈ ws, vocabulary.get? w = other.get? w) :
    vocabulary.spell ws = other.spell ws := by
  induction ws with
  | nil => rfl
  | cons w ws ih =>
    rw [spell, spell, digitOf?, digitOf?, h w List.mem_cons_self,
      ih fun v hv => h v (List.mem_cons_of_mem _ hv)]

/-- The numeral of a phrase depends on nothing but its words. -/
theorem numeralOf_congr (h : ∀ w ∈ Text.words phrase, vocabulary.get? w = other.get? w) :
    vocabulary.numeralOf phrase = other.numeralOf phrase := by
  rw [numeralOf, numeralOf, spell_congr h]

end Vocabulary

namespace Market

/-- **The markets know the same**: the same words with the same digits, the same taken digits, and
the same prices. -/
structure Agrees (market other : Market) : Prop where
  words : ∀ word, market.vocabulary.get? word = other.vocabulary.get? word
  taken : ∀ digit, digit ∈ market.taken ↔ digit ∈ other.taken
  prices : ∀ item, market.prices.get? item = other.prices.get? item

variable {market other : Market}

theorem Agrees.numeralOf (h : Agrees market other) (phrase : Text) :
    market.vocabulary.numeralOf phrase = other.vocabulary.numeralOf phrase :=
  Vocabulary.numeralOf_congr fun word _ => h.words word

theorem Agrees.teach (h : Agrees market other) (word digit : Text) :
    (market.teach word digit).1 = (other.teach word digit).1 ∧
      Agrees (market.teach word digit).2 (other.teach word digit).2 := by
  unfold Market.teach
  rw [Table.contains, Table.contains, h.words word]
  simp only [h.taken (some digit)]
  split
  · exact ⟨rfl, h⟩
  split
  · exact ⟨rfl, h⟩
  · refine ⟨rfl, fun v => ?_, fun d => ?_, h.prices⟩
    · rw [Table.get?_insert, Table.get?_insert, h.words v]
    · rw [List.mem_append, List.mem_append, h.taken d]

theorem Agrees.setPrice (h : Agrees market other) (line phrase item credits : Text) :
    (market.setPrice line phrase item credits).1 = (other.setPrice line phrase item credits).1 ∧
      Agrees (market.setPrice line phrase item credits).2
        (other.setPrice line phrase item credits).2 := by
  unfold Market.setPrice
  rw [h.numeralOf phrase]
  split
  · exact ⟨rfl, h⟩
  split
  · exact ⟨rfl, h⟩
  split
  · exact ⟨rfl, h⟩
  rw [Table.contains, Table.contains, h.prices item]
  split
  · exact ⟨rfl, h⟩
  · refine ⟨rfl, h.words, h.taken, fun i => ?_⟩
    rw [Table.get?_insert, Table.get?_insert, h.prices i]

theorem Agrees.tellNumber (h : Agrees market other) (phrase : Text) :
    market.tellNumber phrase = other.tellNumber phrase := by
  rw [Market.tellNumber, Market.tellNumber, h.numeralOf phrase]

theorem Agrees.tellCost (h : Agrees market other) (phrase item : Text) :
    market.tellCost phrase item = other.tellCost phrase item := by
  rw [Market.tellCost, Market.tellCost, h.numeralOf phrase, h.prices item]

/-- **A line has the same outcome in markets that know the same**, and they know the same after
it. -/
theorem Agrees.ask (h : Agrees market other) (forms : List Form) (line : Text) :
    (market.ask forms line).1 = (other.ask forms line).1 ∧
      Agrees (market.ask forms line).2 (other.ask forms line).2 := by
  unfold Market.ask
  cases Request.ofLine? forms line with
  | none => exact ⟨rfl, h⟩
  | some request =>
    cases request with
    | teach word digit => exact h.teach word digit
    | price phrase item credits => exact h.setPrice line phrase item credits
    | number phrase => exact ⟨h.tellNumber phrase, h⟩
    | cost phrase item => exact ⟨h.tellCost phrase item, h⟩

theorem Agrees.after (h : Agrees market other) (forms : List Form) (lines : List Text) :
    Agrees (market.after forms lines) (other.after forms lines) := by
  induction lines generalizing market other with
  | nil => exact h
  | cons line lines ih => exact ih (h.ask forms line).2

/-- **Lines said one after another have the same outcomes in markets that know the same**, and these
know the same after each of them. -/
theorem Agrees.history (h : Agrees market other) (forms : List Form) (lines : List Text) :
    List.Forall₂ (fun step step' => step.1 = step'.1 ∧ Agrees step.2 step'.2)
      (market.history forms lines) (other.history forms lines) := by
  induction lines generalizing market other with
  | nil => exact .nil
  | cons line lines ih =>
    have hstep := h.ask forms line
    exact .cons hstep (ih hstep.2)

end Market

end Tradespeak
