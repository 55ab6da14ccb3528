import Tradespeak.Proofs.Pattern.Grammar

/-!
# The cuts of a part

* `mem_runCuts`, `mem_phraseCuts`, `Kind.mem_cuts` — the cuts of a run, a phrase and a kind are
  just the texts of that sort at the front of a text, with what follows them.
* `Part.mem_cuts` — the cuts of a part are the pieces that it may take from the front.
* `Part.cuts_decreasing` — they are tried from the longest to the shortest.
-/

set_option autoImplicit false

namespace Tradespeak.Pattern

/-- The cut takes a piece of the set from the front of a text that comes after `k` characters. -/
def IsCut (pieces : Text → Prop) (k : Nat) (s : Text) (cut : Cut) : Prop :=
  ∃ p, pieces p ∧ s = p ++ cut.2 ∧ cut.1 = k + p.length

variable {P Q : Text → Prop} {k : Nat} {c : Char} {s : Text} {cut : Cut}

theorem not_isCut_nil (hP : ¬ P []) : ¬ IsCut P k [] cut := by
  rintro ⟨p, hp, hs, -⟩
  rw [(List.append_eq_nil_iff.1 hs.symm).1] at hp
  exact hP hp

theorem isCut_cons (hP : ¬ P []) :
    IsCut P k (c :: s) cut ↔ IsCut (fun p => P (c :: p)) (k + 1) s cut := by
  constructor
  · rintro ⟨p, hp, hs, hn⟩
    cases p with
    | nil => exact absurd hp hP
    | cons d p =>
      cases hs
      exact ⟨p, hp, rfl, by rw [hn, List.length_cons]; omega⟩
  · rintro ⟨p, hp, rfl, hn⟩
    exact ⟨c :: p, hp, rfl, by rw [hn, List.length_cons]; omega⟩

theorem isCut_or_nil :
    IsCut (fun p => p = [] ∨ P p) k s cut ↔ cut = (k, s) ∨ IsCut P k s cut := by
  constructor
  · rintro ⟨p, rfl | hp, hs, hn⟩
    · left
      exact Prod.ext hn hs.symm
    · exact Or.inr ⟨p, hp, hs, hn⟩
  · rintro (rfl | ⟨p, hp, hs, hn⟩)
    · exact ⟨[], Or.inl rfl, rfl, rfl⟩
    · exact ⟨p, Or.inr hp, hs, hn⟩

theorem IsCut.congr (h : ∀ p, P p ↔ Q p) : IsCut P k s cut ↔ IsCut Q k s cut := by
  simp only [IsCut, h]

theorem mem_runCuts {inClass : Char → Bool} :
    ∀ {s : Text} {k : Nat}, cut ∈ runCuts inClass k s ↔ IsCut (IsRun inClass) k s cut
  | [], k => by
    simp [runCuts, not_isCut_nil (fun h : IsRun inClass [] => h.1 rfl)]
  | c :: s, k => by
    rw [runCuts, isCut_cons (fun h => h.1 rfl)]
    split
    · rename_i hc
      rw [List.mem_cons, mem_runCuts, IsCut.congr (fun p => isRun_cons hc), isCut_or_nil]
    · rename_i hc
      constructor
      · intro h; cases h
      · rintro ⟨p, hp, -⟩
        exact absurd (hp.2 c List.mem_cons_self) hc

theorem mem_phraseCuts : ∀ {s : Text} {k : Nat}, cut ∈ phraseCuts k s ↔ IsCut IsIndented k s cut
  | [], k => by
    simp [phraseCuts, not_isCut_nil not_isIndented_nil]
  | c :: s, k => by
    rw [phraseCuts, isCut_cons not_isIndented_nil]
    split
    · rename_i hc
      rw [List.mem_cons, mem_phraseCuts, IsCut.congr (fun p => isIndented_cons_lower hc),
        isCut_or_nil]
    split
    · rename_i hl hc
      rw [mem_phraseCuts, IsCut.congr (fun p => isIndented_cons_blank (by simpa using hl) hc)]
    · rename_i hl hc
      constructor
      · intro h; cases h
      · rintro ⟨p, hp, -⟩
        rcases isIndented_cons hp with ⟨hb, -⟩ | ⟨ws, hw⟩
        · exact absurd hb hc
        · exact absurd (phrase_cons hw).1 hl

/-! ## The cuts of kinds and parts -/

theorem mem_nil_iff_isCut (hP : ¬ P []) : cut ∈ ([] : List Cut) ↔ IsCut P k [] cut := by
  simp [not_isCut_nil hP]

theorem isCut_char {f : Char → Bool} :
    IsCut (fun p => ∃ d, f d = true ∧ p = [d]) 0 (c :: s) cut ↔ f c = true ∧ cut = (1, s) := by
  constructor
  · rintro ⟨p, ⟨d, hd, rfl⟩, hs, hn⟩
    cases hs
    exact ⟨hd, Prod.ext hn rfl⟩
  · rintro ⟨hc, rfl⟩
    exact ⟨[c], ⟨c, hc, rfl⟩, rfl, rfl⟩

theorem mem_charCuts {f : Char → Bool} :
    cut ∈ (if f c = true then [(1, s)] else []) ↔
      IsCut (fun p => ∃ d, f d = true ∧ p = [d]) 0 (c :: s) cut := by
  rw [isCut_char]
  split <;> simp_all

theorem item_cons {p : Text} :
    Kind.item.Holds (c :: p) ↔
      isUpper c = true ∧ (p = [] ∨ IsRun (fun d => decide (d ≠ '\n')) p) := by
  constructor
  · rintro ⟨d, rest, hd, hrest, hp⟩
    cases hp
    refine ⟨hd, ?_⟩
    by_cases hnil : p = []
    · exact Or.inl hnil
    · refine Or.inr ⟨hnil, fun e he => ?_⟩
      have hne : e ≠ '\n' := by rintro rfl; exact hrest he
      simpa using hne
  · rintro ⟨hc, hp⟩
    refine ⟨c, p, hc, ?_, rfl⟩
    rcases hp with rfl | hp
    · simp
    · intro h
      simpa using hp.2 _ h

/-- **The cuts of a kind are its texts at the front.** -/
theorem Kind.mem_cuts (kind : Kind) : cut ∈ kind.cuts s ↔ IsCut kind.Holds 0 s cut := by
  cases kind with
  | word => rw [Kind.cuts, List.mem_reverse, mem_runCuts]; rfl
  | integer => rw [Kind.cuts, List.mem_reverse, mem_runCuts]; rfl
  | digit =>
    cases s with
    | nil => exact mem_nil_iff_isCut (by rintro ⟨d, -, h⟩; cases h)
    | cons c s => exact mem_charCuts
  | words =>
    cases s with
    | nil => exact mem_nil_iff_isCut (by rintro ⟨ws, h⟩; exact phrase_ne_nil h rfl)
    | cons c s =>
      rw [Kind.cuts]
      split
      · rename_i hc
        rw [List.mem_reverse, mem_phraseCuts, isCut_cons not_isIndented_nil,
          isCut_cons (fun ⟨ws, h⟩ => phrase_ne_nil h rfl)]
        refine IsCut.congr fun p => ?_
        rw [isIndented_cons_lower hc]
        exact ⟨phrase_of_lower hc, fun ⟨ws, h⟩ => (phrase_cons h).2⟩
      · rename_i hc
        constructor
        · intro h; cases h
        · rw [isCut_cons (fun ⟨ws, h⟩ => phrase_ne_nil h rfl)]
          rintro ⟨p, ⟨ws, hp⟩, -⟩
          exact absurd (phrase_cons hp).1 hc
  | item =>
    have hnil : ¬ Kind.item.Holds [] := by rintro ⟨d, rest, -, -, h⟩; cases h
    cases s with
    | nil => exact mem_nil_iff_isCut hnil
    | cons c s =>
      rw [Kind.cuts, isCut_cons hnil, IsCut.congr (fun p => item_cons)]
      split
      · rename_i hc
        rw [IsCut.congr (fun p => and_iff_right hc), isCut_or_nil, List.mem_append,
          List.mem_reverse, mem_runCuts, List.mem_singleton, or_comm]
      · rename_i hc
        constructor
        · intro h; cases h
        · rintro ⟨p, ⟨h, -⟩, -⟩
          exact absurd h hc

/-- A mark is cut off in one way only, after all the blanks. -/
theorem mem_markCuts {d : Char} (hd : isBlank d = false) :
    cut ∈ (Part.mark d).cuts s ↔ IsCut (Part.mark d).Takes 0 s cut := by
  have hsplit : s.takeWhile isBlank ++ Text.trimStart s = s := List.takeWhile_append_dropWhile
  rw [Part.cuts]
  constructor
  · intro h
    split at h
    · cases h
    · rename_i c rest hc
      split at h
      · rename_i hcd
        subst hcd
        rw [List.mem_singleton] at h
        subst h
        refine ⟨s.takeWhile isBlank ++ [c], ⟨_, fun e he => List.mem_takeWhile_imp he, rfl⟩, ?_,
          by simp⟩
        rw [List.append_assoc, List.singleton_append, ← hc, hsplit]
      · cases h
  · rintro ⟨_, ⟨blanks, hblanks, rfl⟩, hs, hn⟩
    have hdrop : Text.trimStart s = d :: cut.2 := by
      rw [hs, Text.trimStart, List.append_assoc, List.dropWhile_append_of_pos hblanks,
        List.singleton_append, List.dropWhile_cons_of_neg (by simp [hd])]
    have htake : s.takeWhile isBlank = blanks := by
      rw [hdrop] at hsplit
      exact List.append_cancel_right (hsplit.trans (by simpa using hs))
    rw [hdrop]
    simp only [if_true, List.mem_singleton]
    refine Prod.ext ?_ rfl
    rw [htake, hn]
    simp

/-- **The cuts of a part are the pieces that it may take from the front.** -/
theorem Part.mem_cuts {part : Part} (hmark : ∀ d, part = .mark d → isBlank d = false) :
    cut ∈ part.cuts s ↔ IsCut part.Takes 0 s cut := by
  cases part with
  | letter d =>
    cases s with
    | nil => exact mem_nil_iff_isCut (by rintro ⟨c, -, h⟩; cases h)
    | cons c s => exact mem_charCuts
  | gap => rw [Part.cuts, List.mem_reverse, mem_runCuts]; rfl
  | mark d => exact mem_markCuts (hmark d rfl)
  | field name kind => exact kind.mem_cuts

theorem Part.Takes.mem_cuts {part : Part} {p : Text} (hp : part.Takes p) (after : Text)
    (hmark : ∀ d, part = .mark d → isBlank d = false) :
    (p.length, after) ∈ part.cuts (p ++ after) :=
  (Part.mem_cuts hmark).2 ⟨p, hp, rfl, by simp⟩

/-! ## From the longest to the shortest -/

theorem runCuts_increasing (inClass : Char → Bool) :
    ∀ (s : Text) (k : Nat), (runCuts inClass k s).Pairwise (fun a b => a.1 < b.1)
  | [], _ => .nil
  | c :: s, k => by
    rw [runCuts]
    split
    · refine List.pairwise_cons.2 ⟨fun cut hcut => ?_, runCuts_increasing inClass s (k + 1)⟩
      obtain ⟨p, hp, -, hn⟩ := mem_runCuts.1 hcut
      have := List.length_pos_of_ne_nil hp.1
      show k + 1 < cut.1
      omega
    · exact .nil

theorem phraseCuts_increasing :
    ∀ (s : Text) (k : Nat), (phraseCuts k s).Pairwise (fun a b => a.1 < b.1)
  | [], _ => .nil
  | c :: s, k => by
    rw [phraseCuts]
    split
    · refine List.pairwise_cons.2 ⟨fun cut hcut => ?_, phraseCuts_increasing s (k + 1)⟩
      obtain ⟨p, hp, -, hn⟩ := mem_phraseCuts.1 hcut
      have : p ≠ [] := fun h => not_isIndented_nil (h ▸ hp)
      have := List.length_pos_of_ne_nil this
      show k + 1 < cut.1
      omega
    split
    · exact phraseCuts_increasing s (k + 1)
    · exact .nil

/-- **The cuts of a part are tried from the longest to the shortest.** -/
theorem Part.cuts_decreasing (part : Part) (s : Text) :
    (part.cuts s).Pairwise (fun a b => b.1 < a.1) := by
  have hrun : ∀ inClass, (runCuts inClass 0 s).reverse.Pairwise (fun a b => b.1 < a.1) :=
    fun inClass => List.pairwise_reverse.2 (runCuts_increasing inClass s 0)
  cases part with
  | letter d =>
    cases s with
    | nil => exact .nil
    | cons c s => rw [Part.cuts]; split <;> simp
  | gap => exact hrun isBlank
  | mark d =>
    rw [Part.cuts]
    split
    · exact .nil
    · split <;> simp
  | field name kind =>
    rw [Part.cuts]
    cases kind with
    | word => exact hrun isLower
    | integer => exact hrun isDecimalDigit
    | digit =>
      cases s with
      | nil => exact .nil
      | cons c s => rw [Kind.cuts]; split <;> simp
    | words =>
      cases s with
      | nil => exact .nil
      | cons c s =>
        rw [Kind.cuts]
        split
        · exact List.pairwise_reverse.2 (phraseCuts_increasing _ 0)
        · exact .nil
    | item =>
      cases s with
      | nil => exact .nil
      | cons c s =>
        rw [Kind.cuts]
        split
        · rw [← List.reverse_cons]
          refine List.pairwise_reverse.2 (List.pairwise_cons.2
            ⟨fun cut hcut => ?_, runCuts_increasing _ s 1⟩)
          obtain ⟨p, hp, -, hn⟩ := mem_runCuts.1 hcut
          have := List.length_pos_of_ne_nil hp.1
          show 1 < cut.1
          omega
        · exact .nil

end Tradespeak.Pattern
