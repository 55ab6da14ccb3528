import Tradespeak.Proofs.Market.Run
import Tradespeak.Proofs.Numeral.Canonical
import Tradespeak.Proofs.Request.Question
import Tradespeak.Proofs.Text.Quoted
import Tradespeak.Proofs.Vocabulary.Spelling

/-!
# The answer to a question for a number

* `NumberOutcome` — the three outcomes that the question can have: the first unknown word is
  refused, the number is told, or the digits are refused that are no numeral.
* `numberOutcome_iff` — in a dialect the question has just this outcome.
* `Answers.unique` — no two sequences of words get the same number.
* `exists_answers` — if each Roman digit has a word, every number from 1 to 3999 is told.

Principal result: `numberQuestion_outcome`.
-/

set_option autoImplicit false

namespace Tradespeak

namespace Market

/-- **The outcome of a question for the number of a phrase** of the words: the first unknown word is
refused, whatever the digits; else the number is told whose greedy encoding the digits are; and
digits that encode no number are refused. -/
inductive NumberOutcome (vocabulary : Vocabulary) (ws : List Text) (phrase : Text) : Outcome → Prop
  | unknown {before after : List Text} {w : Text} (hws : ws = before ++ w :: after)
      (hbefore : ∀ v ∈ before, vocabulary.contains v = true)
      (hw : vocabulary.contains w = false) :
      NumberOutcome vocabulary ws phrase (.refused (.unknownWord w))
  | number {ds : List Text} {n : Nat} (hds : vocabulary.StandFor ws ds) (hpos : 1 ≤ n)
      (hle : n ≤ 3999) (hn : Numeral.Greedy n ds.flatten) :
      NumberOutcome vocabulary ws phrase (.replied (phrase ++ " is ".toList ++ Text.ofNat n))
  | noNumeral {ds : List Text} (hds : vocabulary.StandFor ws ds)
      (hno : ¬ ∃ n, 1 ≤ n ∧ n ≤ 3999 ∧ Numeral.Greedy n ds.flatten) :
      NumberOutcome vocabulary ws phrase (.refused (.notANumeral ds.flatten))

/-- The question for the number of the phrase is answered with the number. -/
def Answers (market : Market) (phrase : Text) (n : Nat) : Prop :=
  (market.ask Form.all (numberQuestion phrase)).1 =
    .replied (phrase ++ " is ".toList ++ Text.ofNat n)

variable {market : Market} {ws : List Text} {phrase : Text} {outcome : Outcome} {n : Nat}

/-! ## One question -/

theorem IsDialect.contains_eq_false_iff (h : market.IsDialect) {w : Text} :
    market.vocabulary.contains w = false ↔ market.vocabulary.digitOf? w = none := by
  rw [Table.contains_eq_false_iff, Vocabulary.digitOf?]
  cases hw : market.vocabulary.get? w with
  | none => simp
  | some digit =>
    obtain ⟨-, c, -, rfl⟩ := h w digit hw
    simp

theorem NumberOutcome.eq_tellNumber (hdialect : market.IsDialect) (hp : Phrase ws phrase)
    (h : NumberOutcome market.vocabulary ws phrase outcome) :
    market.tellNumber phrase = outcome := by
  unfold tellNumber
  cases h with
  | @unknown before after w hws hbefore hw =>
    have hspell : market.vocabulary.spell ws = .error (.unknownWord w) := by
      rw [Vocabulary.spell_eq_error_iff]
      refine ⟨before, w, after, hws, fun v hv hnone => ?_, hdialect.contains_eq_false_iff.1 hw, rfl⟩
      rw [← hdialect.contains_eq_false_iff, hbefore v hv] at hnone
      cases hnone
    rw [Vocabulary.numeralOf_of_error hp hspell]
  | number hds hpos hle hn =>
    obtain ⟨numeral, hread, -, hvalue⟩ := Numeral.read_ofNat hpos hle
    rw [Vocabulary.numeralOf_of_ok hp (Vocabulary.spell_eq_ok_iff.2 ⟨_, hds, rfl⟩),
      Numeral.greedy_iff.1 hn, hread]
    show Outcome.replied (phrase ++ " is ".toList ++ Text.ofNat numeral.value) = _
    rw [hvalue]
  | noNumeral hds hno =>
    simp only [Numeral.greedy_iff] at hno
    rw [Vocabulary.numeralOf_of_ok hp (Vocabulary.spell_eq_ok_iff.2 ⟨_, hds, rfl⟩),
      Numeral.read_eq_error hno]

theorem exists_numberOutcome (hdialect : market.IsDialect) (ws : List Text) (phrase : Text) :
    ∃ outcome, NumberOutcome market.vocabulary ws phrase outcome := by
  cases hspell : market.vocabulary.spell ws with
  | error refusal =>
    obtain ⟨before, w, after, hws, hbefore, hw, -⟩ := Vocabulary.spell_eq_error_iff.1 hspell
    refine ⟨_, .unknown hws (fun v hv => ?_) (hdialect.contains_eq_false_iff.2 hw)⟩
    by_contra hv'
    rw [Bool.not_eq_true, hdialect.contains_eq_false_iff] at hv'
    exact hbefore v hv hv'
  | ok digits =>
    obtain ⟨ds, hds, rfl⟩ := Vocabulary.spell_eq_ok_iff.1 hspell
    by_cases hn : ∃ n, 1 ≤ n ∧ n ≤ 3999 ∧ Numeral.Greedy n ds.flatten
    · obtain ⟨n, hpos, hle, hn⟩ := hn
      exact ⟨_, .number hds hpos hle hn⟩
    · exact ⟨_, .noNumeral hds hn⟩

theorem ask_numberQuestion (market : Market) (hp : Phrase ws phrase) :
    market.ask Form.all (numberQuestion phrase) = (market.tellNumber phrase, market) := by
  rw [ask, Request.ofLine?_numberQuestion hp]
  rfl

/-- **In a dialect the question has just this outcome**, and it changes nothing. -/
theorem numberOutcome_iff (hdialect : market.IsDialect) (hp : Phrase ws phrase) :
    market.ask Form.all (numberQuestion phrase) = (outcome, market) ↔
      NumberOutcome market.vocabulary ws phrase outcome := by
  rw [ask_numberQuestion market hp, Prod.mk.injEq, and_iff_left rfl]
  constructor
  · intro h
    obtain ⟨outcome', houtcome'⟩ := exists_numberOutcome hdialect ws phrase
    rwa [← h, houtcome'.eq_tellNumber hdialect hp]
  · intro h
    exact h.eq_tellNumber hdialect hp

/-! ## Numbers and words -/

theorem answers_iff (hdialect : market.IsDialect) (hp : Phrase ws phrase) :
    market.Answers phrase n ↔ 1 ≤ n ∧ n ≤ 3999 ∧
      ∃ ds, market.vocabulary.StandFor ws ds ∧ Numeral.Greedy n ds.flatten := by
  have hask : market.Answers phrase n ↔ NumberOutcome market.vocabulary ws phrase
      (.replied (phrase ++ " is ".toList ++ Text.ofNat n)) := by
    rw [← numberOutcome_iff hdialect hp, Answers, ask_numberQuestion market hp]
    simp
  rw [hask]
  constructor
  · intro h
    generalize hreply : phrase ++ " is ".toList ++ Text.ofNat n = reply at h
    cases h with
    | number hds hpos hle hn =>
      rw [Text.ofNat_injective (List.append_cancel_left hreply)]
      exact ⟨hpos, hle, _, hds, hn⟩
  · rintro ⟨hpos, hle, ds, hds, hn⟩
    exact .number hds hpos hle hn

/-- **No two sequences of words get the same number**, since no two words have one digit. -/
theorem Answers.unique (hsound : market.Sound) {ws' : List Text} {phrase' : Text}
    (hp : Phrase ws phrase) (hp' : Phrase ws' phrase') (h : market.Answers phrase n)
    (h' : market.Answers phrase' n) : ws = ws' := by
  obtain ⟨-, -, ds, hds, hn⟩ := (answers_iff hsound.isDialect hp).1 h
  obtain ⟨-, -, ds', hds', hn'⟩ := (answers_iff hsound.isDialect hp').1 h'
  have hsingle : ∀ w d, market.vocabulary.get? w = some d → ∃ c, d = some [c] := by
    intro w d hw
    obtain ⟨-, c, -, hc⟩ := hsound.isDialect w d hw
    exact ⟨c, hc⟩
  apply hds.unique hds' hsound.oneWordEach hsingle
  rw [Numeral.greedy_iff.1 hn, Numeral.greedy_iff.1 hn']

/-- **If each Roman digit has a word, every number is told.** -/
theorem exists_answers (hdialect : market.IsDialect)
    (hall : ∀ c ∈ "IVXLCDM".toList, ∃ w, market.vocabulary.get? w = some (some [c]))
    (hpos : 1 ≤ n) (hle : n ≤ 3999) :
    ∃ ws, (∃ phrase, Phrase ws phrase) ∧ ∀ phrase, Phrase ws phrase → market.Answers phrase n := by
  obtain ⟨ws, ds, hds, hn⟩ := Vocabulary.exists_standFor hall fun c => Numeral.mem_ofNat (n := n)
  have hnil : ws ≠ [] := by
    rintro rfl
    cases hds
    have hzero : Numeral.ofNat 0 = Numeral.ofNat n := hn
    have := Numeral.ofNat_injective hzero
    omega
  have hlower : ∀ w ∈ ws, IsRun isLower w := by
    intro w hw
    obtain ⟨i, hi, rfl⟩ := List.mem_iff_getElem.1 hw
    have hget := hds.get hi (hds.length_eq ▸ hi)
    exact (hdialect _ _ hget).1
  refine ⟨ws, exists_phrase hnil hlower, fun phrase hp => ?_⟩
  exact (answers_iff hdialect hp).2 ⟨hpos, hle, ds, hds, Numeral.greedy_iff.2 hn⟩

/-- **The question for a number in every market that is reached.**  Whatever lines came before, the
question has just the outcome that its words decide, and changes nothing.  No two sequences of words
get the same number, and once each Roman digit has a word, every number from 1 to 3999 is the answer
to just one sequence of words, whatever the blanks between them. -/
theorem numberQuestion_outcome (lines : List Text) :
    (∀ ws phrase, Phrase ws phrase → ∀ outcome,
      (Market.empty.after Form.all lines).ask Form.all (numberQuestion phrase) =
          (outcome, Market.empty.after Form.all lines) ↔
        NumberOutcome (Market.empty.after Form.all lines).vocabulary ws phrase outcome) ∧
      (∀ ws phrase ws' phrase' n, Phrase ws phrase → Phrase ws' phrase' →
        (Market.empty.after Form.all lines).Answers phrase n →
        (Market.empty.after Form.all lines).Answers phrase' n → ws = ws') ∧
      ((∀ c ∈ "IVXLCDM".toList, ∃ w,
          (Market.empty.after Form.all lines).vocabulary.get? w = some (some [c])) →
        ∀ n, 1 ≤ n → n ≤ 3999 → ∃! ws, (∃ phrase, Phrase ws phrase) ∧
          ∀ phrase, Phrase ws phrase → (Market.empty.after Form.all lines).Answers phrase n) := by
  have hsound := sound_after Form.all lines
  refine ⟨fun ws phrase hp outcome => numberOutcome_iff hsound.isDialect hp,
    fun ws phrase ws' phrase' n hp hp' => Answers.unique hsound hp hp', ?_⟩
  intro hall n hpos hle
  obtain ⟨ws, ⟨phrase, hp⟩, hanswers⟩ := exists_answers hsound.isDialect hall hpos hle
  refine ⟨ws, ⟨⟨phrase, hp⟩, hanswers⟩, ?_⟩
  rintro ws' ⟨⟨phrase', hp'⟩, hanswers'⟩
  exact Answers.unique hsound hp' hp (hanswers' phrase' hp') (hanswers phrase hp)

/-- Lines that teach a word for each digit, and one that is not understood. -/
def sevenWords : List Text :=
  ["glob is I".toList, "prok is V".toList, "pish is X".toList, "tegj is L".toList,
    "zug is C".toList, "blim is D".toList, "Silver".toList, "kral is M".toList]

/-- With a word for each digit, 42 is the answer to just one sequence of words. -/
theorem numberQuestion_outcome_sevenWords :
    (∀ c ∈ "IVXLCDM".toList, ∃ w,
        (Market.empty.after Form.all sevenWords).vocabulary.get? w = some (some [c])) ∧
      ∃! ws, (∃ phrase, Phrase ws phrase) ∧ ∀ phrase, Phrase ws phrase →
        (Market.empty.after Form.all sevenWords).Answers phrase 42 := by
  have hentries : (Market.empty.after Form.all sevenWords).vocabulary.entries =
      [("glob".toList, some "I".toList), ("prok".toList, some "V".toList),
        ("pish".toList, some "X".toList), ("tegj".toList, some "L".toList),
        ("zug".toList, some "C".toList), ("blim".toList, some "D".toList),
        ("kral".toList, some "M".toList)] := by
    decide +kernel
  have hall : ∀ c ∈ "IVXLCDM".toList, ∃ w,
      (Market.empty.after Form.all sevenWords).vocabulary.get? w = some (some [c]) := by
    unfold Table.get?
    rw [hentries]
    intro c hc
    simp only [String.reduceToList, List.mem_cons, List.not_mem_nil, or_false] at hc
    rcases hc with rfl | rfl | rfl | rfl | rfl | rfl | rfl
    · exact ⟨"glob".toList, by decide⟩
    · exact ⟨"prok".toList, by decide⟩
    · exact ⟨"pish".toList, by decide⟩
    · exact ⟨"tegj".toList, by decide⟩
    · exact ⟨"zug".toList, by decide⟩
    · exact ⟨"blim".toList, by decide⟩
    · exact ⟨"kral".toList, by decide⟩
  exact ⟨hall, (numberQuestion_outcome sevenWords).2.2 hall 42 (by decide) (by decide)⟩

end Market

end Tradespeak
