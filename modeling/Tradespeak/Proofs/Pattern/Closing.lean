import Tradespeak.Proofs.Pattern.Unambiguous

/-!
# Patterns that a mark closes

* `Part.avoids` — no piece for the part has the character (`not_mem_flatten`).
* `ClosedBy` — the pieces for the parts end with a mark, and wherever it stands in them, pieces for
  the parts could have ended there.
* `ClosedBy.of_mark`, `ClosedBy.of_item_mark` — so it is if the mark comes after parts that do not
  have it, or after such parts and an item.

Principal result: `ClosedBy.exists_chooses_append` — what is put after a line does not move the place
where a pattern of this sort is found in it.
-/

set_option autoImplicit false

namespace Tradespeak.Pattern

variable {parts front : List Part} {part : Part} {ps ps' : List Text} {name : Text} {c d : Char}
  {s x rest : Text}

/-! ## Characters that no piece has -/

/-- No text of the kind has the character. -/
def Kind.avoids (c : Char) : Kind → Bool
  | word => !isLower c
  | words => !isLower c && !isBlank c
  | digit => !isRomanDigit c
  | item => c == '\n'
  | integer => !isDecimalDigit c

/-- No piece for the part has the character. -/
def Part.avoids (c : Char) : Part → Bool
  | letter d => !sameLetter d c
  | gap => !isBlank c
  | mark d => !isBlank c && c != d
  | field _ kind => kind.avoids c

theorem Kind.not_mem {kind : Kind} (hc : kind.avoids c = true) (hs : kind.Holds s) : c ∉ s := by
  cases kind with
  | word => exact not_mem_of_class (by simpa [avoids] using hc) hs.2
  | integer => exact not_mem_of_class (by simpa [avoids] using hc) hs.2
  | words =>
    obtain ⟨ws, hs⟩ := hs
    have hneither : (isLower c || isBlank c) = false := by simpa [avoids] using hc
    exact not_mem_of_class hneither (phrase_chars hs)
  | digit =>
    obtain ⟨d, hd, rfl⟩ := hs
    intro hmem
    rw [← List.mem_singleton.1 hmem] at hd
    simp [avoids, hd] at hc
  | item =>
    obtain ⟨d, rest, hd, hrest, rfl⟩ := hs
    obtain rfl : c = '\n' := by simpa [avoids] using hc
    intro hmem
    rcases List.mem_cons.1 hmem with rfl | hmem
    · exact absurd hd (by decide)
    · exact hrest hmem

theorem Part.Takes.not_mem (hs : part.Takes s) (hc : part.avoids c = true) : c ∉ s := by
  cases part with
  | letter d =>
    obtain ⟨e, he, rfl⟩ := hs
    intro hmem
    rw [← List.mem_singleton.1 hmem] at he
    simp [avoids, he] at hc
  | gap => exact not_mem_of_class (by simpa [avoids] using hc) hs.2
  | mark d =>
    obtain ⟨blanks, hb, rfl⟩ := hs
    simp only [avoids, Bool.and_eq_true, Bool.not_eq_true', bne_iff_ne] at hc
    rw [List.mem_append, List.mem_singleton, not_or]
    exact ⟨not_mem_of_class hc.1 hb, hc.2⟩
  | field name kind => exact kind.not_mem hc hs

/-- A character that no piece for any of the parts has is not in the pieces. -/
theorem not_mem_flatten (h : List.Forall₂ Part.Takes parts ps)
    (hparts : ∀ part ∈ parts, part.avoids c = true) : c ∉ ps.flatten := by
  induction h with
  | nil => simp
  | @cons part p parts ps hp _ ih =>
    rw [List.flatten_cons, List.mem_append, not_or]
    exact ⟨hp.not_mem (hparts part List.mem_cons_self),
      ih fun part' hpart' => hparts part' (List.mem_cons_of_mem _ hpart')⟩

/-! ## Marks at the end -/

/-- **A mark closes the parts**: their pieces end with it, and wherever it stands in them, pieces for
the parts could have ended there. -/
structure ClosedBy (d : Char) (parts : List Part) : Prop where
  ends : ∀ ps, List.Forall₂ Part.Takes parts ps → ∃ s, ps.flatten = s ++ [d]
  shortened : ∀ ps s rest, List.Forall₂ Part.Takes parts ps → ps.flatten = s ++ d :: rest →
    ∃ ps', List.Forall₂ Part.Takes parts ps' ∧ ps'.flatten = s ++ [d]

/-- A text that is cut at a character is cut after any part at its front that does not have it. -/
theorem append_mark_split {y : Text} (hx : d ∉ x) (h : x ++ y = s ++ d :: rest) :
    ∃ t, s = x ++ t ∧ y = t ++ d :: rest := by
  rcases List.append_eq_append_iff.1 h with ⟨t, hs, ht⟩ | ⟨t, hs, ht⟩
  · exact ⟨t, hs, ht⟩
  · cases t with
    | nil => exact ⟨[], by simpa using hs.symm, ht.symm⟩
    | cons e t =>
      rw [List.cons_append, List.cons.injEq] at ht
      rw [hs, ht.1] at hx
      exact absurd (List.mem_append_right s List.mem_cons_self) hx

theorem eq_nil_of_singleton (h : [d] = s ++ d :: rest) : s = [] := by
  have hlength := congrArg List.length h
  simp only [List.length_append, List.length_cons, List.length_nil] at hlength
  exact List.eq_nil_of_length_eq_zero (by omega)

/-- A mark closes parts that do not have it, when it comes after them. -/
theorem ClosedBy.of_mark (hblank : isBlank d = false)
    (hfront : ∀ part ∈ front, part.avoids d = true) : ClosedBy d (front ++ [.mark d]) := by
  have hpieces : ∀ ps, List.Forall₂ Part.Takes (front ++ [.mark d]) ps →
      ∃ x, d ∉ x ∧ ps.flatten = x ++ [d] := by
    intro ps hps
    obtain ⟨first, _, rfl, hfirst, hlast⟩ := takes_append_iff.1 hps
    simp only [List.forall₂_cons_left_iff, List.forall₂_nil_left_iff] at hlast
    obtain ⟨_, _, ⟨blanks, hb, rfl⟩, rfl, rfl⟩ := hlast
    refine ⟨first.flatten ++ blanks, ?_, by simp⟩
    rw [List.mem_append, not_or]
    exact ⟨not_mem_flatten hfirst hfront, not_mem_of_class hblank hb⟩
  constructor
  · intro ps hps
    obtain ⟨x, -, hx⟩ := hpieces ps hps
    exact ⟨x, hx⟩
  · -- the mark stands nowhere but at the end
    intro ps s rest hps hs
    obtain ⟨x, hnot, hx⟩ := hpieces ps hps
    obtain ⟨t, rfl, ht⟩ := append_mark_split hnot (hx.symm.trans hs)
    rw [eq_nil_of_singleton ht, List.append_nil]
    exact ⟨ps, hps, hx⟩

/-- What an item begins with, unless it is nothing, is an item. -/
theorem Kind.item_holds_of_append (h : Kind.item.Holds (s ++ rest)) (hs : s ≠ []) :
    Kind.item.Holds s := by
  obtain ⟨c, t, hc, ht, heq⟩ := h
  cases s with
  | nil => exact absurd rfl hs
  | cons e s =>
    rw [List.cons_append, List.cons.injEq] at heq
    obtain ⟨rfl, rfl⟩ := heq
    exact ⟨e, s, hc, fun hmem => ht (List.mem_append_left _ hmem), rfl⟩

/-- A mark closes an item that comes after parts that do not have it.  Wherever the mark stands in
the item, the item could have ended before it. -/
theorem ClosedBy.of_item_mark (hblank : isBlank d = false) (hupper : isUpper d = false)
    (hfront : ∀ part ∈ front, part.avoids d = true) :
    ClosedBy d (front ++ [.field name .item, .mark d]) := by
  constructor
  · intro ps hps
    obtain ⟨first, _, rfl, -, hlast⟩ := takes_append_iff.1 hps
    simp only [List.forall₂_cons_left_iff, List.forall₂_nil_left_iff] at hlast
    obtain ⟨item, _, -, ⟨_, _, ⟨blanks, -, rfl⟩, rfl, rfl⟩, rfl⟩ := hlast
    exact ⟨first.flatten ++ item ++ blanks, by simp⟩
  · intro ps s rest hps hs
    obtain ⟨first, _, rfl, hfirst, hlast⟩ := takes_append_iff.1 hps
    simp only [List.forall₂_cons_left_iff, List.forall₂_nil_left_iff] at hlast
    obtain ⟨item, _, hitem, ⟨_, _, ⟨blanks, hb, rfl⟩, rfl, rfl⟩, rfl⟩ := hlast
    have hline : first.flatten ++ (item ++ (blanks ++ [d])) = s ++ d :: rest := by
      rw [← hs, List.flatten_append]
      simp
    obtain ⟨t, rfl, ht⟩ := append_mark_split (not_mem_flatten hfirst hfront) hline
    rcases List.append_eq_append_iff.1 ht with ⟨u, rfl, hu⟩ | ⟨u, rfl, hu⟩
    · -- the mark is the one at the end
      obtain ⟨v, rfl, hv⟩ := append_mark_split (not_mem_of_class hblank hb) hu
      refine ⟨_, hps, ?_⟩
      rw [eq_nil_of_singleton hv, List.flatten_append]
      simp
    · -- the mark stands in the item, or is the first thing after it
      have hne : t ≠ [] := by
        rintro rfl
        obtain ⟨c, rest', hc, -, rfl⟩ := hitem
        rw [List.cons_append, List.cons.injEq] at hu
        rw [hu.1, hc] at hupper
        cases hupper
      refine ⟨first ++ [t, [d]], takes_append_iff.2 ⟨first, _, rfl, hfirst, ?_⟩, by simp⟩
      exact .cons (Kind.item_holds_of_append hitem hne) (.cons ⟨[], by simp, rfl⟩ .nil)

/-! ## What comes after a line -/

variable {pattern : Pattern} {line before before' : Text}

theorem decomposes_append (hanchored : pattern.anchored = false)
    (h : pattern.Decomposes line before ps) (more : Text) :
    pattern.Decomposes (line ++ more) before ps := by
  obtain ⟨htakes, hline⟩ := h
  rw [if_neg (by simp [hanchored])] at hline
  obtain ⟨after, rfl⟩ := hline
  refine ⟨htakes, ?_⟩
  rw [if_neg (by simp [hanchored])]
  exact ⟨after ++ more, by simp⟩

theorem before_at_front (h : pattern.Decomposes line before ps) : before <+: line := by
  obtain ⟨-, hline⟩ := h
  split at hline
  · rw [hline.1]
    exact List.nil_prefix
  · obtain ⟨after, rfl⟩ := hline
    exact ⟨_, rfl⟩

theorem exists_chooses (hmark : ∀ d, .mark d ∈ pattern.parts → isBlank d = false)
    (h : pattern.Decomposes line before ps) : ∃ before' ps', pattern.Chooses line before' ps' := by
  cases hfound : pattern.fieldTexts? line with
  | none => exact absurd ⟨before, ps, h⟩ ((fieldTexts?_eq_none_iff hmark).1 hfound)
  | some texts =>
    obtain ⟨before', ps', hchosen, -⟩ := (fieldTexts?_eq_some_iff hmark).1 hfound
    exact ⟨before', ps', hchosen⟩

/-- What fits a longer line, and begins no later than something that fits the line itself, can be cut
short to fit the line.  If it goes beyond the line, it goes beyond the mark of the other. -/
theorem ClosedBy.decomposes_of_append {more : Text} (hclosed : ClosedBy d pattern.parts)
    (hanchored : pattern.anchored = false) (h : pattern.Decomposes line before ps)
    (h' : pattern.Decomposes (line ++ more) before' ps') (hle : before'.length ≤ before.length) :
    ∃ ps₁, pattern.Decomposes line before' ps₁ := by
  obtain ⟨htakes, hline⟩ := h
  obtain ⟨htakes', hline'⟩ := h'
  rw [if_neg (by simp [hanchored])] at hline hline'
  obtain ⟨after, rfl⟩ := hline
  obtain ⟨after', hline'⟩ := hline'
  have hdec : ∀ {ps₁ after₁}, List.Forall₂ Part.Takes pattern.parts ps₁ →
      before ++ (ps.flatten ++ after) = before' ++ (ps₁.flatten ++ after₁) →
      pattern.Decomposes (before ++ (ps.flatten ++ after)) before' ps₁ := by
    intro ps₁ after₁ htakes₁ heq
    refine ⟨htakes₁, ?_⟩
    rw [if_neg (by simp [hanchored])]
    exact ⟨after₁, heq⟩
  rw [← List.append_assoc before'] at hline'
  rcases List.append_eq_append_iff.1 hline' with ⟨beyond, hbeyond, -⟩ | ⟨within, hwithin, -⟩
  · obtain ⟨s, hs⟩ := hclosed.ends ps htakes
    obtain ⟨t, rfl⟩ : before' <+: before :=
      List.prefix_of_prefix_length_le ⟨_, hbeyond⟩ ⟨_, (List.append_assoc _ _ _).symm⟩ hle
    have hlonger : ps'.flatten = (t ++ s) ++ d :: (after ++ beyond) := by
      rw [hs] at hbeyond
      simpa using hbeyond
    obtain ⟨ps₁, htakes₁, hps₁⟩ := hclosed.shortened ps' _ _ htakes' hlonger
    have hwithin : before' ++ t ++ (ps.flatten ++ after) =
        before' ++ (ps₁.flatten ++ after) := by
      rw [hps₁, hs]
      simp
    exact ⟨ps₁, hdec htakes₁ hwithin⟩
  · exact ⟨ps', hdec htakes' (by rw [hwithin, List.append_assoc])⟩

/-- **What is put after a line does not move the place** where a pattern that a mark closes is found
in it. -/
theorem ClosedBy.exists_chooses_append (hclosed : ClosedBy d pattern.parts)
    (hanchored : pattern.anchored = false)
    (hmark : ∀ d, .mark d ∈ pattern.parts → isBlank d = false)
    (h : pattern.Chooses line before ps) (more : Text) :
    ∃ ps', pattern.Chooses (line ++ more) before ps' := by
  have hdec := decomposes_append hanchored h.decomposes more
  obtain ⟨before', ps', h'⟩ := exists_chooses hmark hdec
  have hle := h'.leftmost _ _ hdec
  obtain ⟨ps₁, h₁⟩ := hclosed.decomposes_of_append hanchored h.decomposes h'.decomposes hle
  have hlength : before'.length = before.length := Nat.le_antisymm hle (h.leftmost _ _ h₁)
  obtain rfl : before' = before :=
    (List.prefix_of_prefix_length_le (before_at_front h'.decomposes) (before_at_front hdec)
      hle).eq_of_length hlength
  exact ⟨ps', h'⟩

end Tradespeak.Pattern
