import Tradespeak.Proofs.Pattern.Greedy
import Tradespeak.Proofs.Text.Classes
import Tradespeak.Proofs.Text.LetterCase

/-!
# Parts that can be cut in one way only

* `Solid` — no piece for the parts begins with a blank, so that a gap before them ends there.
* `Unambiguous` — the pieces for the parts at the front of a text are determined by the text.
* `Unambiguous.letter`, `Unambiguous.gap`, `Unambiguous.integer`, `Unambiguous.mark`,
  `Unambiguous.words_mark` — a letter, a gap before solid parts, an integer before a gap, a mark,
  and a phrase that ends with a mark.
* `phrase_item_inj` — a phrase and its gap are determined if an item follows, wherever this ends.
* `Unambiguous.at_end` — parts that are unambiguous from right to left are determined by the text
  that they end.
* `fieldTexts?_of_same_fields` — if all decompositions have the same fields, these are found.

Principal result: `fieldTexts?_of_decomposes` — if the parts are unambiguous, any decomposition from
the front of the line is the one that is chosen.
-/

set_option autoImplicit false

namespace Tradespeak.Pattern

variable {parts : List Part} {name : Text} {c d : Char}

/-- The pieces for the parts make a text that does not begin with a blank. -/
def Solid (parts : List Part) : Prop :=
  ∀ ps, List.Forall₂ Part.Takes parts ps → ∃ c s, ps.flatten = c :: s ∧ isBlank c = false

/-- The pieces for the parts at the front of a text are determined by the text. -/
def Unambiguous (parts : List Part) : Prop :=
  ∀ ps ps' rest rest', List.Forall₂ Part.Takes parts ps → List.Forall₂ Part.Takes parts ps' →
    ps.flatten ++ rest = ps'.flatten ++ rest' → ps = ps'

/-! ## Solid parts -/

theorem solid_letter (hd : isLower d = true) : Solid (.letter d :: parts) := by
  intro ps hps
  cases hps with
  | @cons _ p _ later hp _ =>
    obtain ⟨c, hc, rfl⟩ := hp
    exact ⟨c, later.flatten, rfl, isBlank_of_sameLetter hd hc⟩

theorem solid_letters {word : Text} (hnil : word ≠ []) (hword : ∀ c ∈ word, isLower c = true) :
    Solid (letters word ++ parts) := by
  cases word with
  | nil => exact absurd rfl hnil
  | cons c word => exact solid_letter (hword c List.mem_cons_self)

theorem solid_words : Solid (.field name .words :: parts) := by
  intro ps hps
  cases hps with
  | @cons _ p _ later hp _ =>
    obtain ⟨ws, hp⟩ := hp
    cases p with
    | nil => exact absurd rfl (phrase_ne_nil hp)
    | cons c p => exact ⟨c, p ++ later.flatten, rfl, isBlank_of_isLower (phrase_head hp c rfl)⟩

theorem solid_integer : Solid (.field name .integer :: parts) := by
  intro ps hps
  cases hps with
  | @cons _ p _ later hp _ =>
    obtain ⟨c, p, rfl, hc⟩ := IsRun.exists_cons hp
    exact ⟨c, p ++ later.flatten, rfl, isBlank_of_isDecimalDigit hc⟩

/-! ## Unambiguous parts -/

theorem Unambiguous.nil : Unambiguous [] := by
  intro ps ps' _ _ hps hps' _
  cases hps
  cases hps'
  rfl

/-- The first piece is determined, whatever text follows the first part, and so are the others. -/
theorem Unambiguous.cons {part : Part} (hparts : Unambiguous parts)
    (hpart : ∀ p p' later later' rest rest', part.Takes p → part.Takes p' →
      List.Forall₂ Part.Takes parts later → List.Forall₂ Part.Takes parts later' →
      p ++ (later.flatten ++ rest) = p' ++ (later'.flatten ++ rest') → p = p') :
    Unambiguous (part :: parts) := by
  intro ps ps' rest rest' hps hps' h
  cases hps with
  | @cons _ p _ later hp hlater =>
    cases hps' with
    | @cons _ p' _ later' hp' hlater' =>
      simp only [List.flatten_cons, List.append_assoc] at h
      have hpp := hpart p p' later later' rest rest' hp hp' hlater hlater' h
      subst hpp
      rw [hparts later later' rest rest' hlater hlater' (List.append_cancel_left h)]

theorem Unambiguous.letter (hparts : Unambiguous parts) : Unambiguous (.letter d :: parts) := by
  refine hparts.cons fun p p' later later' rest rest' hp hp' _ _ h => ?_
  obtain ⟨c, -, rfl⟩ := hp
  obtain ⟨c', -, rfl⟩ := hp'
  rw [(List.cons.inj h).1]

theorem Unambiguous.gap (hparts : Unambiguous parts) (hsolid : Solid parts) :
    Unambiguous (.gap :: parts) := by
  have hhead : ∀ later rest, List.Forall₂ Part.Takes parts later →
      ∀ c ∈ (later.flatten ++ rest).head?, isBlank c = false := by
    intro later rest hlater c hc
    obtain ⟨d, s, hs, hd⟩ := hsolid later hlater
    rw [hs] at hc
    cases hc
    exact hd
  refine hparts.cons fun p p' later later' rest rest' hp hp' hlater hlater' h => ?_
  exact (run_append_inj hp.2 hp'.2 (hhead later rest hlater) (hhead later' rest' hlater') h).1

/-- An integer ends where the gap after it begins. -/
theorem Unambiguous.integer (hparts : Unambiguous (.gap :: parts)) :
    Unambiguous (.field name .integer :: .gap :: parts) := by
  have hhead : ∀ later rest, List.Forall₂ Part.Takes (.gap :: parts) later →
      ∀ c ∈ (later.flatten ++ rest).head?, isDecimalDigit c = false := by
    intro later rest hlater c hc
    cases hlater with
    | @cons _ blanks _ later hblanks _ =>
      obtain ⟨d, blanks, rfl, hd⟩ := IsRun.exists_cons hblanks
      cases hc
      rw [← Bool.not_eq_true]
      intro hdigit
      rw [isBlank_of_isDecimalDigit hdigit] at hd
      cases hd
  refine hparts.cons fun p p' later later' rest rest' hp hp' hlater hlater' h => ?_
  exact (run_append_inj hp.2 hp'.2 (hhead later rest hlater) (hhead later' rest' hlater') h).1

/-- A phrase and the blanks after it are determined if neither a letter nor a blank follows. -/
theorem phrase_append_inj {ws ws' : List Text} {p p' blanks blanks' s s' : Text}
    (hp : Phrase ws p) (hp' : Phrase ws' p') (hb : ∀ c ∈ blanks, isBlank c = true)
    (hb' : ∀ c ∈ blanks', isBlank c = true)
    (hs : ∀ c ∈ s.head?, (isLower c || isBlank c) = false)
    (hs' : ∀ c ∈ s'.head?, (isLower c || isBlank c) = false)
    (h : p ++ (blanks ++ s) = p' ++ (blanks' ++ s')) : p = p' := by
  have hrun : ∀ {ws p blanks}, Phrase ws p → (∀ c ∈ blanks, isBlank c = true) →
      ∀ c ∈ p ++ blanks, (isLower c || isBlank c) = true := by
    intro ws p blanks hp hb c hc
    rcases List.mem_append.1 hc with hc | hc
    · exact phrase_chars hp c hc
    · simp [hb c hc]
  have hend : ∀ {ws p}, Phrase ws p → ∀ c ∈ p.getLast?, isBlank c = false :=
    fun hp c hc => isBlank_of_isLower (phrase_getLast hp c hc)
  rw [← List.append_assoc, ← List.append_assoc] at h
  have hblanks := (run_append_inj (hrun hp hb) (hrun hp' hb') hs hs' h).1
  -- the blanks are the longest run at the end, and the phrase is what is before them
  exact (append_run_inj hb hb' (hend hp) (hend hp') hblanks).1

/-- A phrase and the gap after it are determined if an item follows. -/
theorem phrase_item_inj {ws ws' : List Text} {p p' gap gap' item item' s s' : Text}
    (hp : Phrase ws p) (hp' : Phrase ws' p') (hgap : ∀ c ∈ gap, isBlank c = true)
    (hgap' : ∀ c ∈ gap', isBlank c = true) (hitem : Kind.item.Holds item)
    (hitem' : Kind.item.Holds item')
    (h : p ++ (gap ++ (item ++ s)) = p' ++ (gap' ++ (item' ++ s'))) :
    p = p' ∧ gap = gap' ∧ item ++ s = item' ++ s' := by
  have hhead : ∀ {item} (s : Text), Kind.item.Holds item →
      ∀ c ∈ (item ++ s).head?, isLower c = false ∧ isBlank c = false := by
    rintro _ s ⟨d, rest, hd, -, rfl⟩ c hc
    cases hc
    exact ⟨isLower_of_isUpper hd, isBlank_of_isUpper hd⟩
  have hphrases := phrase_append_inj hp hp' hgap hgap'
    (fun c hc => Bool.or_eq_false_iff.2 (hhead s hitem c hc))
    (fun c hc => Bool.or_eq_false_iff.2 (hhead s' hitem' c hc)) h
  subst hphrases
  exact ⟨rfl, run_append_inj hgap hgap' (fun c hc => (hhead s hitem c hc).2)
    (fun c hc => (hhead s' hitem' c hc).2) (List.append_cancel_left h)⟩

theorem Unambiguous.mark (hparts : Unambiguous parts) (hblank : isBlank d = false) :
    Unambiguous (.mark d :: parts) := by
  refine hparts.cons fun p p' later later' rest rest' hp hp' _ _ h => ?_
  obtain ⟨blanks, hb, rfl⟩ := hp
  obtain ⟨blanks', hb', rfl⟩ := hp'
  simp only [List.append_assoc, List.singleton_append] at h
  rw [(run_append_inj hb hb' (by simp [hblank]) (by simp [hblank]) h).1]

/-- A phrase ends where its mark, or the blanks before the mark, begin. -/
theorem Unambiguous.words_mark (hparts : Unambiguous parts) (hlower : isLower d = false)
    (hblank : isBlank d = false) : Unambiguous (.field name .words :: .mark d :: parts) := by
  have hend : ∀ s : Text, ∀ c ∈ (d :: s).head?, (isLower c || isBlank c) = false := by
    intro s c hc
    cases hc
    simp [hlower, hblank]
  refine (hparts.mark hblank).cons fun p p' later later' rest rest' hp hp' hlater hlater' h => ?_
  obtain ⟨ws, hp⟩ := hp
  obtain ⟨ws', hp'⟩ := hp'
  cases hlater with
  | @cons _ m _ later hm _ =>
    cases hlater' with
    | @cons _ m' _ later' hm' _ =>
      obtain ⟨blanks, hb, rfl⟩ := hm
      obtain ⟨blanks', hb', rfl⟩ := hm'
      simp only [List.flatten_cons, List.append_assoc, List.singleton_append] at h
      exact phrase_append_inj hp hp' hb hb' (hend _) (hend _) h

theorem Unambiguous.letters (hparts : Unambiguous parts) (word : Text) :
    Unambiguous (letters word ++ parts) := by
  induction word with
  | nil => exact hparts
  | cons c word ih => exact ih.letter

/-- The pieces for parts one after another are pieces for the ones and pieces for the others. -/
theorem takes_append_iff {front : List Part} {ps : List Text} :
    List.Forall₂ Part.Takes (front ++ parts) ps ↔ ∃ first later, ps = first ++ later ∧
      List.Forall₂ Part.Takes front first ∧ List.Forall₂ Part.Takes parts later := by
  constructor
  · intro h
    induction front generalizing ps with
    | nil => exact ⟨[], ps, rfl, .nil, h⟩
    | cons part front ih =>
      cases h with
      | @cons _ p _ ps hp hps =>
        obtain ⟨first, later, rfl, hfirst, hlater⟩ := ih hps
        exact ⟨p :: first, later, rfl, .cons hp hfirst, hlater⟩
  · rintro ⟨first, later, rfl, hfirst, hlater⟩
    exact List.rel_append hfirst hlater

theorem takes_letters {ps : List Text} (h : List.Forall₂ Part.Takes parts ps) (word : Text) :
    List.Forall₂ Part.Takes (letters word ++ parts) (word.map (fun c => [c]) ++ ps) := by
  induction word with
  | nil => exact h
  | cons c word ih => exact .cons ⟨c, by simp [sameLetter], rfl⟩ ih

/-! ## Parts at the end of a text -/

/-- The pieces for the part read from right to left are pieces for it. -/
def Part.Reversible (part : Part) : Prop := ∀ p, part.Takes p → part.Takes p.reverse

theorem Part.reversible_letter : (Part.letter d).Reversible := by
  rintro p ⟨c, hc, rfl⟩
  exact ⟨c, hc, rfl⟩

theorem isRun_reverse {inClass : Char → Bool} {p : Text} (hp : IsRun inClass p) :
    IsRun inClass p.reverse :=
  ⟨by simpa using hp.1, by simpa using hp.2⟩

theorem Part.reversible_gap : Part.gap.Reversible := fun _ hp => isRun_reverse hp

theorem Part.reversible_integer : (Part.field name .integer).Reversible :=
  fun _ hp => isRun_reverse hp

theorem takes_reverse {ps : List Text} (hparts : ∀ part ∈ parts, part.Reversible)
    (hps : List.Forall₂ Part.Takes parts ps) :
    List.Forall₂ Part.Takes parts.reverse (ps.map List.reverse).reverse := by
  rw [List.forall₂_reverse_iff, List.forall₂_map_right_iff]
  induction hps with
  | nil => exact .nil
  | cons hp _ ih =>
    exact .cons (hparts _ List.mem_cons_self _ hp)
      (ih fun part hpart => hparts part (List.mem_cons_of_mem _ hpart))

/-- **Parts that are unambiguous from right to left are determined by the text that they end.** -/
theorem Unambiguous.at_end {ps ps' : List Text} {s s' : Text} (hparts : Unambiguous parts.reverse)
    (hreversible : ∀ part ∈ parts, part.Reversible) (hps : List.Forall₂ Part.Takes parts ps)
    (hps' : List.Forall₂ Part.Takes parts ps') (h : s ++ ps.flatten = s' ++ ps'.flatten) :
    ps = ps' := by
  have hreverse := congrArg List.reverse h
  rw [List.reverse_append, List.reverse_append, List.reverse_flatten, List.reverse_flatten]
    at hreverse
  have hsame := hparts _ _ _ _ (takes_reverse hreversible hps) (takes_reverse hreversible hps')
    hreverse
  exact List.map_injective_iff.2 List.reverse_injective (List.reverse_injective hsame)

/-! ## The choice in unambiguous patterns -/

/-- If all decompositions of a line have the same fields, these are found. -/
theorem fieldTexts?_of_same_fields {pattern : Pattern} {line before : Text} {ps : List Text}
    (hmark : ∀ d, .mark d ∈ pattern.parts → isBlank d = false)
    (h : pattern.Decomposes line before ps)
    (hsame : ∀ before' ps', pattern.Decomposes line before' ps' →
      fieldPieces pattern.parts ps' = fieldPieces pattern.parts ps) :
    pattern.fieldTexts? line = some (fieldPieces pattern.parts ps) := by
  cases hfound : pattern.fieldTexts? line with
  | none => exact absurd ⟨before, ps, h⟩ ((fieldTexts?_eq_none_iff hmark).1 hfound)
  | some texts =>
    obtain ⟨before', ps', hchosen, rfl⟩ := (fieldTexts?_eq_some_iff hmark).1 hfound
    rw [hsame before' ps' hchosen.decomposes]

/-- Of an unambiguous pattern, no two decompositions of a line begin at the same place. -/
theorem Unambiguous.decomposes_unique {pattern : Pattern} {line before : Text} {ps ps' : List Text}
    (hparts : Unambiguous pattern.parts) (h : pattern.Decomposes line before ps)
    (h' : pattern.Decomposes line before ps') : ps' = ps := by
  obtain ⟨htakes, hline⟩ := h
  obtain ⟨htakes', hline'⟩ := h'
  by_cases hanchored : pattern.anchored = true
  · rw [if_pos hanchored] at hline hline'
    exact hparts ps' ps [] [] htakes' htakes (by rw [hline.2, hline'.2])
  · rw [if_neg hanchored] at hline hline'
    obtain ⟨after, hline⟩ := hline
    obtain ⟨after', hline'⟩ := hline'
    exact hparts ps' ps after' after htakes' htakes
      (List.append_cancel_left (hline'.symm.trans hline))

/-- **Of an unambiguous pattern, the decomposition from the front is the one that is chosen.** -/
theorem fieldTexts?_of_decomposes {pattern : Pattern} {line : Text} {ps : List Text}
    (hmark : ∀ d, .mark d ∈ pattern.parts → isBlank d = false)
    (hparts : Unambiguous pattern.parts) (h : pattern.Decomposes line [] ps) :
    pattern.fieldTexts? line = some (fieldPieces pattern.parts ps) := by
  rw [fieldTexts?_eq_some_iff hmark]
  exact ⟨[], ps, ⟨h, fun _ _ _ => Nat.zero_le _,
    fun ps' h' => Or.inl (hparts.decomposes_unique h h')⟩, rfl⟩

end Tradespeak.Pattern
