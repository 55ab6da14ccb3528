import Mathlib.Data.List.Forall2
import Tradespeak.Proofs.Text.Words
import Tradespeak.Vocabulary

/-!
# What words spell

* `StandFor` — words and their digits, one by one.
* `spell_eq_ok_iff` — words are spelled just if all of them stand for digits.
* `spell_eq_error_iff` — else the first one that does not is refused.
* `numeralOf_of_ok`, `numeralOf_of_error` — the numeral of a phrase is that of what its words spell.
* `numeralOf_eq_error` — the two reasons why a phrase has none.
* `StandFor.unique` — where no two words have one digit, the digits determine the words.
* `exists_standFor` — where each of some digits has a word, every text of these digits is spelled.
-/

set_option autoImplicit false

namespace Tradespeak.Vocabulary

variable {vocabulary : Vocabulary} {w d digits : Text} {ws ds : List Text} {refusal : Refusal}

/-- The words stand for the digits, one by one. -/
def StandFor (vocabulary : Vocabulary) (ws ds : List Text) : Prop :=
  List.Forall₂ (fun w d => vocabulary.get? w = some (some d)) ws ds

theorem digitOf?_eq_some_iff :
    vocabulary.digitOf? w = some d ↔ vocabulary.get? w = some (some d) := by
  simp [digitOf?, Option.join_eq_some_iff]

theorem spell_eq_ok_iff :
    vocabulary.spell ws = .ok digits ↔ ∃ ds, vocabulary.StandFor ws ds ∧ digits = ds.flatten := by
  induction ws generalizing digits with
  | nil =>
    constructor
    · intro h
      cases h
      exact ⟨[], .nil, rfl⟩
    · rintro ⟨ds, hds, rfl⟩
      cases hds
      rfl
  | cons w ws ih =>
    constructor
    · intro h
      rw [spell] at h
      split at h
      · cases h
      rename_i d hd
      split at h
      · cases h
      rename_i later hlater
      cases h
      obtain ⟨ds, hds, rfl⟩ := ih.1 hlater
      exact ⟨d :: ds, .cons (digitOf?_eq_some_iff.1 hd) hds, rfl⟩
    · rintro ⟨ds, hds, rfl⟩
      cases hds with
      | cons hd hds => simp [spell, digitOf?_eq_some_iff.2 hd, ih.2 ⟨_, hds, rfl⟩]

/-- The first word that stands for nothing is refused, whatever the digits before it. -/
theorem spell_eq_error_iff : vocabulary.spell ws = .error refusal ↔
    ∃ before w after, ws = before ++ w :: after ∧ (∀ v ∈ before, vocabulary.digitOf? v ≠ none) ∧
      vocabulary.digitOf? w = none ∧ refusal = .unknownWord w := by
  induction ws with
  | nil =>
    constructor
    · intro h; cases h
    · rintro ⟨before, w, after, hws, -⟩
      cases before <;> cases hws
  | cons v ws ih =>
    cases hv : vocabulary.digitOf? v with
    | none =>
      simp only [spell, hv, Except.error.injEq]
      constructor
      · rintro rfl
        exact ⟨[], v, ws, rfl, by simp, hv, rfl⟩
      · rintro ⟨before, w, after, hws, hbefore, -, rfl⟩
        cases before with
        | nil => cases hws; rfl
        | cons u before => cases hws; exact absurd hv (hbefore v List.mem_cons_self)
    | some d =>
      have hrest : vocabulary.spell (v :: ws) = .error refusal ↔
          vocabulary.spell ws = .error refusal := by
        rw [spell, hv]
        cases vocabulary.spell ws <;> simp
      rw [hrest, ih]
      constructor
      · rintro ⟨before, w, after, rfl, hbefore, hw, hrefusal⟩
        refine ⟨v :: before, w, after, rfl, fun u hu => ?_, hw, hrefusal⟩
        rcases List.mem_cons.1 hu with rfl | hu
        · simp [hv]
        · exact hbefore u hu
      · rintro ⟨before, w, after, hws, hbefore, hw, hrefusal⟩
        cases before with
        | nil => cases hws; rw [hv] at hw; cases hw
        | cons u before =>
          cases hws
          exact ⟨before, w, after, rfl, fun u hu => hbefore u (List.mem_cons_of_mem _ hu), hw,
            hrefusal⟩

/-! ## Phrases -/

theorem numeralOf_of_ok {phrase : Text} (hp : Phrase ws phrase)
    (h : vocabulary.spell ws = .ok digits) : vocabulary.numeralOf phrase = Numeral.read digits := by
  unfold numeralOf
  rw [words_phrase hp, h]

theorem numeralOf_of_error {phrase : Text} (hp : Phrase ws phrase)
    (h : vocabulary.spell ws = .error refusal) : vocabulary.numeralOf phrase = .error refusal := by
  unfold numeralOf
  rw [words_phrase hp, h]

/-- A phrase has no numeral just for a word that stands for nothing, or for its digits. -/
theorem numeralOf_eq_error {phrase : Text} (h : vocabulary.numeralOf phrase = .error refusal) :
    (∃ w, refusal = .unknownWord w) ∨ ∃ s, refusal = .notANumeral s := by
  unfold numeralOf at h
  split at h
  · rename_i hspell
    cases h
    obtain ⟨_, w, _, _, _, _, hrefusal⟩ := spell_eq_error_iff.1 hspell
    exact Or.inl ⟨w, hrefusal⟩
  · unfold Numeral.read at h
    split at h <;> cases h
    exact Or.inr ⟨_, rfl⟩

/-! ## Words and single digits -/

/-- Single digits are determined by their text, and the words by the digits. -/
theorem StandFor.unique {ws' ds' : List Text} (hds : vocabulary.StandFor ws ds)
    (hds' : vocabulary.StandFor ws' ds')
    (hone : ∀ v w d, vocabulary.get? v = some d → vocabulary.get? w = some d → v = w)
    (hsingle : ∀ w d, vocabulary.get? w = some d → ∃ c, d = some [c])
    (h : ds.flatten = ds'.flatten) : ws = ws' := by
  have hletter : ∀ {w d}, vocabulary.get? w = some (some d) → ∃ c, d = [c] := by
    intro w d hw
    obtain ⟨c, hc⟩ := hsingle w _ hw
    exact ⟨c, Option.some.inj hc⟩
  induction hds generalizing ws' ds' with
  | nil =>
    cases hds' with
    | nil => rfl
    | cons hw _ => obtain ⟨c, rfl⟩ := hletter hw; cases h
  | cons hw _ ih =>
    obtain ⟨c, rfl⟩ := hletter hw
    cases hds' with
    | nil => cases h
    | cons hw' hrest' =>
      obtain ⟨c', rfl⟩ := hletter hw'
      rw [List.flatten_cons, List.flatten_cons] at h
      obtain ⟨rfl, hrest⟩ := List.cons.inj h
      rw [hone _ _ _ hw hw', ih hrest' hrest]

theorem exists_standFor {signs s : Text}
    (hsigns : ∀ c ∈ signs, ∃ w, vocabulary.get? w = some (some [c])) (hs : ∀ c ∈ s, c ∈ signs) :
    ∃ ws ds, vocabulary.StandFor ws ds ∧ ds.flatten = s := by
  induction s with
  | nil => exact ⟨[], [], .nil, rfl⟩
  | cons c s ih =>
    obtain ⟨w, hw⟩ := hsigns c (hs c List.mem_cons_self)
    obtain ⟨ws, ds, hds, rfl⟩ := ih fun d hd => hs d (List.mem_cons_of_mem _ hd)
    exact ⟨w :: ws, [c] :: ds, .cons hw hds, rfl⟩

end Tradespeak.Vocabulary
