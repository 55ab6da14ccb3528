import Tradespeak.Proofs.Market.Run
import Tradespeak.Proofs.Vocabulary.Spelling

/-!
# What a line gets when it is said again

* `Extends.trans`, `after_extends` — later markets know all that earlier ones know.
* `Vocabulary.numeralOf_mono` — the numeral of a phrase, or that it is none, stays once all its
  words stand for digits.
* `Persists` — what a line can get later, by what it got before.
* `ask_persists` — a line that is said again gets what it can get by this rule, whatever was said
  in between.

Principal result: `outcome_permanent`.
-/

set_option autoImplicit false

namespace Tradespeak

theorem Table.contains_of_get? {α : Type} {table : Table α} {name : Text} {value : α}
    (h : table.get? name = some value) : table.contains name = true := by
  rw [contains, h]
  rfl

namespace Vocabulary

variable {vocabulary larger : Vocabulary} {ws : List Text} {digits phrase : Text}

theorem spell_mono
    (hwords : ∀ word digit, vocabulary.get? word = some digit → larger.get? word = some digit)
    (h : vocabulary.spell ws = .ok digits) : larger.spell ws = .ok digits := by
  obtain ⟨ds, hds, rfl⟩ := spell_eq_ok_iff.1 h
  exact spell_eq_ok_iff.2 ⟨ds, hds.imp fun word digit => hwords word _, rfl⟩

/-- Once all words of a phrase stand for digits, its numeral stays, or that it is none. -/
theorem numeralOf_mono
    (hwords : ∀ word digit, vocabulary.get? word = some digit → larger.get? word = some digit)
    (phrase : Text) : (∃ word, vocabulary.numeralOf phrase = .error (.unknownWord word)) ∨
      larger.numeralOf phrase = vocabulary.numeralOf phrase := by
  cases hspell : vocabulary.spell (Text.words phrase) with
  | error refusal =>
    obtain ⟨_, word, _, _, _, _, rfl⟩ := spell_eq_error_iff.1 hspell
    exact Or.inl ⟨word, by rw [numeralOf, hspell]⟩
  | ok digits =>
    right
    rw [numeralOf, numeralOf, hspell, spell_mono hwords hspell]

end Vocabulary

namespace Market

variable {forms : List Form} {market next later : Market} {line : Text}

/-! ## Later markets -/

theorem Extends.trans (h : Extends market next) (h' : Extends next later) :
    Extends market later :=
  ⟨fun word digit hword => h'.words word digit (h.words word digit hword),
    fun digit hdigit => h'.taken digit (h.taken digit hdigit),
    fun item price hprice => h'.prices item price (h.prices item price hprice)⟩

theorem after_extends (forms : List Form) (market : Market) (lines : List Text) :
    Extends market (market.after forms lines) :=
  after_induction forms (fun h hlearns => h.trans hlearns.extends) (.refl market) lines

theorem Extends.contains_word (h : Extends market later) {word : Text}
    (hword : market.vocabulary.contains word = true) :
    later.vocabulary.contains word = true := by
  obtain ⟨digit, hdigit⟩ := Option.isSome_iff_exists.1 hword
  exact Table.contains_of_get? (h.words word digit hdigit)

theorem Extends.contains_item (h : Extends market later) {item : Text}
    (hitem : market.prices.contains item = true) : later.prices.contains item = true := by
  obtain ⟨price, hprice⟩ := Option.isSome_iff_exists.1 hitem
  exact Table.contains_of_get? (h.prices item price hprice)

/-! ## One request -/

/-- **What a line can get when it is said again**, by the request that it makes and by what it got
before.  Only a word without a digit and an item without a price leave all open. -/
inductive Persists (request : Option Request) : Outcome → Outcome → Prop
  | same {outcome : Outcome} (hother : outcome ≠ .learned) : Persists request outcome outcome
  | taught {word digit : Text} (hrequest : request = some (.teach word digit)) :
      Persists request .learned (.refused (.knownWord word))
  | priced {phrase item credits : Text} (hrequest : request = some (.price phrase item credits)) :
      Persists request .learned (.refused (.pricedItem item))
  | taken {word digit : Text} (hrequest : request = some (.teach word digit)) :
      Persists request (.refused (.takenDigit digit)) (.refused (.knownWord word))
  | unknownWord {word : Text} {outcome : Outcome} :
      Persists request (.refused (.unknownWord word)) outcome
  | unpricedItem {item : Text} {outcome : Outcome} :
      Persists request (.refused (.unpricedItem item)) outcome

theorem teach_persists (h : Extends market later) {word digit : Text}
    (hnext : Extends (market.teach word digit).2 later) :
    Persists (some (.teach word digit)) (market.teach word digit).1
      (later.teach word digit).1 := by
  unfold teach at hnext ⊢
  by_cases hword : market.vocabulary.contains word = true
  · rw [if_pos hword, if_pos (h.contains_word hword)]
    exact .same (by simp)
  rw [if_neg hword] at hnext ⊢
  by_cases hdigit : some digit ∈ market.taken
  · rw [if_pos hdigit, if_pos (h.taken _ hdigit)]
    split
    · exact .taken rfl
    · exact .same (by simp)
  · rw [if_neg hdigit] at hnext ⊢
    have hlearned : later.vocabulary.get? word = some (some digit) :=
      hnext.words word _ (by rw [Table.get?_insert, if_pos rfl])
    rw [if_pos (Table.contains_of_get? hlearned)]
    exact .taught rfl

theorem setPrice_persists (h : Extends market later) {line phrase item credits : Text}
    (hnext : Extends (market.setPrice line phrase item credits).2 later) :
    Persists (some (.price phrase item credits)) (market.setPrice line phrase item credits).1
      (later.setPrice line phrase item credits).1 := by
  unfold setPrice at hnext ⊢
  rcases Vocabulary.numeralOf_mono h.words phrase with ⟨word, hword⟩ | hsame
  · rw [hword]
    exact .unknownWord
  rw [hsame]
  cases hnumeral : market.vocabulary.numeralOf phrase with
  | error refusal => exact .same (by simp)
  | ok numeral =>
    simp only [hnumeral] at hnext ⊢
    split at hnext
    · rename_i hvalue
      simp only [if_pos hvalue]
      exact .same (by simp)
    rename_i hvalue
    simp only [if_neg hvalue]
    cases hquotient : Decimal.quotient (digitsValue credits) numeral.value with
    | error fault => exact .same (by simp)
    | ok unitPrice =>
      simp only [hquotient] at hnext ⊢
      split at hnext
      · rename_i hitem
        rw [if_pos hitem, if_pos (h.contains_item hitem)]
        exact .same (by simp)
      · rename_i hitem
        have hlearned : later.prices.get? item = some unitPrice :=
          hnext.prices item _ (by rw [Table.get?_insert, if_pos rfl])
        rw [if_neg hitem, if_pos (Table.contains_of_get? hlearned)]
        exact .priced rfl

theorem tellNumber_persists (h : Extends market later) {request : Option Request} (phrase : Text) :
    Persists request (market.tellNumber phrase) (later.tellNumber phrase) := by
  rcases Vocabulary.numeralOf_mono h.words phrase with ⟨word, hword⟩ | hsame
  · rw [tellNumber, hword]
    exact .unknownWord
  · have htold : later.tellNumber phrase = market.tellNumber phrase := by
      rw [tellNumber, tellNumber, hsame]
    rw [htold]
    exact .same (market.tellNumber_ne_learned phrase)

theorem tellCost_persists (h : Extends market later) {request : Option Request}
    (phrase item : Text) :
    Persists request (market.tellCost phrase item) (later.tellCost phrase item) := by
  rcases Vocabulary.numeralOf_mono h.words phrase with ⟨word, hword⟩ | hsame
  · rw [tellCost, hword]
    exact .unknownWord
  cases hnumeral : market.vocabulary.numeralOf phrase with
  | error refusal =>
    rw [tellCost, tellCost, hsame, hnumeral]
    exact .same (by simp)
  | ok numeral =>
    cases hprice : market.prices.get? item with
    | none =>
      rw [tellCost, hnumeral]
      simp only [hprice]
      exact .unpricedItem
    | some price =>
      have htold : later.tellCost phrase item = market.tellCost phrase item := by
        rw [tellCost, tellCost, hsame, h.prices item price hprice, hprice]
      rw [htold]
      exact .same (market.tellCost_ne_learned phrase item)

/-- **A line that is said again gets what it can get by the rule**, in every market that knows all
that was known after it was said first. -/
theorem ask_persists (hlater : Extends (market.ask forms line).2 later) :
    Persists (Request.ofLine? forms line) (market.ask forms line).1 (later.ask forms line).1 := by
  have h : Extends market later := (ask_extends forms market line).trans hlater
  unfold ask at hlater ⊢
  cases hline : Request.ofLine? forms line with
  | none => exact .same (by simp)
  | some request =>
    simp only [hline] at hlater ⊢
    cases request with
    | teach word digit => exact teach_persists h hlater
    | price phrase item credits => exact setPrice_persists h hlater
    | number phrase => exact tellNumber_persists h phrase
    | cost phrase item => exact tellCost_persists h phrase item

/-! ## All lines -/

/-- **Outcomes are permanent.**  Whatever is said after a line, when it is said again a reply is the
same; a definition that was accepted is refused, since its word is known or its item priced; a
refusal is the same if it was for digits that are no numeral, a known word, a priced item or an
unknown form; and if the digit was taken, it still is, unless the word is known by now. -/
theorem outcome_permanent (forms : List Form) (market : Market) (line : Text) (lines : List Text)
    {first again : Outcome} (hfirst : (market.ask forms line).1 = first)
    (hagain : (((market.ask forms line).2.after forms lines).ask forms line).1 = again) :
    (∀ reply, first = .replied reply → again = .replied reply) ∧
      (first = .learned →
        (∃ word digit, Request.ofLine? forms line = some (.teach word digit) ∧
          again = .refused (.knownWord word)) ∨
        ∃ phrase item credits, Request.ofLine? forms line = some (.price phrase item credits) ∧
          again = .refused (.pricedItem item)) ∧
      (∀ refusal, first = .refused refusal →
        (∃ s, refusal = .notANumeral s ∨ refusal = .knownWord s ∨ refusal = .pricedItem s ∨
          refusal = .unknownForm s) →
        again = .refused refusal) ∧
      ∀ digit, first = .refused (.takenDigit digit) →
        again = .refused (.takenDigit digit) ∨
          ∃ word, Request.ofLine? forms line = some (.teach word digit) ∧
            again = .refused (.knownWord word) := by
  have hpersists : Persists (Request.ofLine? forms line) first again :=
    hfirst ▸ hagain ▸ ask_persists (after_extends forms _ lines)
  clear hfirst hagain
  cases hpersists with
  | same hother =>
    exact ⟨fun _ h => h, fun h => absurd h hother, fun _ h _ => h, fun _ h => Or.inl h⟩
  | taught hrequest =>
    refine ⟨fun _ h => ?_, fun _ => Or.inl ⟨_, _, hrequest, rfl⟩, fun _ h => ?_, fun _ h => ?_⟩ <;>
      cases h
  | priced hrequest =>
    refine ⟨fun _ h => ?_, fun _ => Or.inr ⟨_, _, _, hrequest, rfl⟩, fun _ h => ?_,
      fun _ h => ?_⟩ <;> cases h
  | taken hrequest =>
    refine ⟨fun _ h => ?_, fun h => ?_, fun _ h hlasting => ?_, fun _ h => ?_⟩ <;> cases h
    · obtain ⟨s, hs | hs | hs | hs⟩ := hlasting <;> cases hs
    · exact Or.inr ⟨_, hrequest, rfl⟩
  | unknownWord =>
    refine ⟨fun _ h => ?_, fun h => ?_, fun _ h hlasting => ?_, fun _ h => ?_⟩ <;> cases h
    obtain ⟨s, hs | hs | hs | hs⟩ := hlasting <;> cases hs
  | unpricedItem =>
    refine ⟨fun _ h => ?_, fun h => ?_, fun _ h hlasting => ?_, fun _ h => ?_⟩ <;> cases h
    obtain ⟨s, hs | hs | hs | hs⟩ := hlasting <;> cases hs

/-- A market that knows one word. -/
def oneWord : Market := Market.empty.after Form.all ["glob is I".toList]

/-- A line is refused for a taken digit, and later for its word, which was taught another digit. -/
theorem outcome_permanent_takenDigit :
    (oneWord.ask Form.all "prok is I".toList).1 = .refused (.takenDigit "I".toList) ∧
      (((oneWord.ask Form.all "prok is I".toList).2.after Form.all
        ["prok is V".toList]).ask Form.all "prok is I".toList).1 =
          .refused (.knownWord "prok".toList) ∧
      ∃ word, Request.ofLine? Form.all "prok is I".toList = some (.teach word "I".toList) ∧
        Outcome.refused (.knownWord "prok".toList) = .refused (.knownWord word) := by
  have hfirst : (oneWord.ask Form.all "prok is I".toList).1 =
      .refused (.takenDigit "I".toList) := by
    decide +kernel
  have hagain : (((oneWord.ask Form.all "prok is I".toList).2.after Form.all
      ["prok is V".toList]).ask Form.all "prok is I".toList).1 =
        .refused (.knownWord "prok".toList) := by
    decide +kernel
  obtain ⟨-, -, -, htaken⟩ := outcome_permanent Form.all oneWord _ _ hfirst hagain
  refine ⟨hfirst, hagain, (htaken _ rfl).resolve_left (by simp)⟩

end Market

end Tradespeak
