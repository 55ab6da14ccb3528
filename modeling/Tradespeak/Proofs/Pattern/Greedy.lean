import Tradespeak.Proofs.Pattern.Cuts
import Tradespeak.Request

/-!
# The matcher finds the leftmost greatest decomposition

* `fit_some`, `fit_none` — the lengths that are found at a place are those of the decomposition
  that is greatest in the lexicographic order, and none are found only if there is none.
* `firstFit_some`, `firstFit_none` — the first place of a line where the parts fit.
* `Chooses` — the decomposition of a line that is chosen; `Chooses.unique` : there is only one.
* `fieldTexts?_eq_some_iff`, `fieldTexts?_eq_none_iff` — its fields are found.
* `read_written` — the patterns of the forms are read from what is written for them.

Principal result: `match?_spec`.
-/

set_option autoImplicit false

namespace Tradespeak

namespace Pattern

variable {s : Text}

/-! ## The greatest lengths at a place -/

/-- The pieces are at the front of the text, one for each part, and what follows is acceptable. -/
structure Fits (acceptable : Text → Bool) (parts : List Part) (s : Text) (ps : List Text)
    (rest : Text) : Prop where
  takes : List.Forall₂ Part.Takes parts ps
  split : s = ps.flatten ++ rest
  accepted : acceptable rest = true

variable {acceptable : Text → Bool} {part : Part} {parts : List Part} {lengths : List Nat}

theorem Fits.uncons {ps : List Text} {rest : Text}
    (h : Fits acceptable (part :: parts) s ps rest) :
    ∃ p later, ps = p :: later ∧ part.Takes p ∧ s = p ++ (later.flatten ++ rest) ∧
      Fits acceptable parts (later.flatten ++ rest) later rest := by
  obtain ⟨htakes, hsplit, haccepted⟩ := h
  cases htakes with
  | cons hp hlater =>
    refine ⟨_, _, rfl, hp, ?_, hlater, rfl, haccepted⟩
    rw [hsplit, List.flatten_cons, List.append_assoc]

theorem fit_none (hmark : ∀ d, .mark d ∈ parts → isBlank d = false)
    (h : fit acceptable parts s = none) (ps : List Text) (rest : Text) :
    ¬ Fits acceptable parts s ps rest := by
  induction parts generalizing s ps with
  | nil =>
    rintro ⟨htakes, hsplit, haccepted⟩
    cases htakes
    rw [List.flatten_nil, List.nil_append] at hsplit
    rw [fit, hsplit, if_pos haccepted] at h
    cases h
  | cons part parts ih =>
    intro hfits
    obtain ⟨p, later, -, hp, rfl, hlater⟩ := hfits.uncons
    have hcut := hp.mem_cuts (later.flatten ++ rest) fun d hd => hmark d (by simp [hd])
    rw [fit, List.findSome?_eq_none_iff] at h
    have hnone := Option.map_eq_none_iff.1 (h _ hcut)
    exact ih (fun d hd => hmark d (List.mem_cons_of_mem _ hd)) hnone later hlater

/-- **The lengths that are found are the greatest.**  Of two ways to fit the parts, the first part
that differs in length decides, and cuts are tried from the longest. -/
theorem fit_some (hmark : ∀ d, .mark d ∈ parts → isBlank d = false)
    (h : fit acceptable parts s = some lengths) :
    ∃ ps rest, Fits acceptable parts s ps rest ∧ ps.map List.length = lengths ∧
      ∀ ps' rest', Fits acceptable parts s ps' rest' →
        ps' = ps ∨ List.Lex (· < ·) (ps'.map List.length) lengths := by
  induction parts generalizing s lengths with
  | nil =>
    rw [fit] at h
    split at h
    · rename_i hs
      cases h
      refine ⟨[], s, ⟨.nil, rfl, hs⟩, rfl, fun ps' rest' hfits => ?_⟩
      cases hfits.takes
      exact Or.inl rfl
    · cases h
  | cons part parts ih =>
    have hpart : ∀ d, part = .mark d → isBlank d = false := fun d hd => hmark d (by simp [hd])
    have hparts : ∀ d, .mark d ∈ parts → isBlank d = false :=
      fun d hd => hmark d (List.mem_cons_of_mem _ hd)
    rw [fit, List.findSome?_eq_some_iff] at h
    obtain ⟨longer, cut, shorter, hcuts, hfound, hlonger⟩ := h
    obtain ⟨later, hlater, rfl⟩ := Option.map_eq_some_iff.1 hfound
    obtain ⟨p, hp, hs, hn⟩ := (Part.mem_cuts hpart).1
      (by rw [hcuts]; simp : cut ∈ part.cuts s)
    rw [Nat.zero_add] at hn
    obtain ⟨ps, rest, hfits, hlengths, hgreatest⟩ := ih hparts hlater
    refine ⟨p :: ps, rest, ⟨.cons hp hfits.takes, ?_, hfits.accepted⟩, ?_, ?_⟩
    · rw [hs, hfits.split, List.flatten_cons, List.append_assoc]
    · rw [List.map_cons, hlengths, hn]
    · intro ps' rest' hfits'
      obtain ⟨p', later', rfl, hp', hs', hlater'⟩ := hfits'.uncons
      have hcut' := hp'.mem_cuts (later'.flatten ++ rest') hpart
      rw [← hs', hcuts, List.mem_append, List.mem_cons] at hcut'
      rcases hcut' with hlong | heq | hshort
      · -- a longer piece leaves a text that the later parts do not fit
        have hnone := Option.map_eq_none_iff.1 (hlonger _ hlong)
        exact absurd hlater' (fit_none hparts hnone _ _)
      · subst heq
        have hpp : p' = p := List.append_cancel_right (hs'.symm.trans hs)
        subst hpp
        rcases hgreatest later' rest' hlater' with rfl | hlex
        · exact Or.inl rfl
        · exact Or.inr (.cons hlex)
      · have hdec := Part.cuts_decreasing part s
        rw [hcuts] at hdec
        have hlt := (List.pairwise_cons.1 (List.pairwise_append.1 hdec).2.1).1 _ hshort
        exact Or.inr (.rel hlt)

/-! ## The first place -/

theorem firstFit_none (h : firstFit parts s = none) {before t : Text} (hs : s = before ++ t) :
    fit (fun _ => true) parts t = none := by
  induction s generalizing before with
  | nil =>
    rw [(List.append_eq_nil_iff.1 hs.symm).2]
    simpa [firstFit] using h
  | cons c s ih =>
    rw [firstFit] at h
    split at h
    · cases h
    · rename_i hnone
      cases before with
      | nil => rw [List.nil_append] at hs; rwa [← hs]
      | cons d before => exact ih h (List.cons.inj hs).2

theorem firstFit_some {t : Text} (h : firstFit parts s = some (t, lengths)) :
    ∃ before, s = before ++ t ∧ fit (fun _ => true) parts t = some lengths ∧
      ∀ before' t', s = before' ++ t' → before'.length < before.length →
        fit (fun _ => true) parts t' = none := by
  induction s with
  | nil =>
    rw [firstFit] at h
    obtain ⟨_, hfit, heq⟩ := Option.map_eq_some_iff.1 h
    cases heq
    exact ⟨[], rfl, hfit, fun _ _ _ hlt => absurd hlt (by simp)⟩
  | cons c s ih =>
    rw [firstFit] at h
    split at h
    · rename_i hfit
      cases h
      exact ⟨[], rfl, hfit, fun _ _ _ hlt => absurd hlt (by simp)⟩
    · rename_i hnone
      obtain ⟨before, rfl, hfit, hfirst⟩ := ih h
      refine ⟨c :: before, rfl, hfit, fun before' t' hs hlt => ?_⟩
      cases before' with
      | nil => rw [List.nil_append] at hs; rwa [← hs]
      | cons d before' => exact hfirst before' t' (List.cons.inj hs).2 (by simpa using hlt)

/-! ## The fields -/

theorem pieces_lengths (ps : List Text) (rest : Text) :
    pieces (ps.map List.length) (ps.flatten ++ rest) = ps := by
  induction ps with
  | nil => rfl
  | cons p ps ih =>
    rw [List.map_cons, List.flatten_cons, List.append_assoc, pieces, List.take_left',
      List.drop_left', ih] <;> rfl

theorem zip_fieldPieces {ps : List Text} (h : List.Forall₂ Part.Takes parts ps) :
    (parts.filterMap (·.fieldName?)).zip (fieldPieces parts ps) = reported parts ps := by
  induction h with
  | nil => rfl
  | @cons part p parts ps _ _ ih =>
    cases part with
    | letter d => simpa [fieldPieces, reported, Part.fieldName?] using ih
    | gap => simpa [fieldPieces, reported, Part.fieldName?] using ih
    | mark d => simpa [fieldPieces, reported, Part.fieldName?] using ih
    | field name kind => simpa [fieldPieces, reported, Part.fieldName?] using ih

end Pattern

/-! ## The decomposition that is chosen -/

/-- **The decomposition that is chosen**: none begins earlier, and of those that begin at the same
place its lengths are the greatest in the lexicographic order. -/
structure Pattern.Chooses (pattern : Pattern) (line before : Text) (ps : List Text) : Prop where
  decomposes : pattern.Decomposes line before ps
  leftmost : ∀ before' ps', pattern.Decomposes line before' ps' → before.length ≤ before'.length
  greatest : ∀ ps', pattern.Decomposes line before ps' →
    ps' = ps ∨ List.Lex (· < ·) (ps'.map List.length) (ps.map List.length)

namespace Pattern

variable {pattern : Pattern} {line before : Text} {ps : List Text}

theorem Chooses.unique {before' : Text} {ps' : List Text} (h : pattern.Chooses line before ps)
    (h' : pattern.Chooses line before' ps') : before' = before ∧ ps' = ps := by
  have hlength : before'.length = before.length :=
    Nat.le_antisymm (h'.leftmost _ _ h.decomposes) (h.leftmost _ _ h'.decomposes)
  have hbefore : before' = before := by
    have hd := h.decomposes.2
    have hd' := h'.decomposes.2
    split at hd
    · rename_i hanchored
      rw [if_pos hanchored] at hd'
      rw [hd.1, hd'.1]
    · rename_i hanchored
      rw [if_neg hanchored] at hd'
      obtain ⟨after, hline⟩ := hd
      obtain ⟨after', hline'⟩ := hd'
      exact (List.append_inj (hline'.symm.trans hline) hlength).1
  subst hbefore
  refine ⟨rfl, ?_⟩
  rcases h.greatest ps' h'.decomposes with heq | hlt
  · exact heq
  rcases h'.greatest ps h.decomposes with heq | hlt'
  · exact heq.symm
  · exact absurd hlt' (List.lt_asymm hlt)

theorem decomposes_iff_of_anchored (hanchored : pattern.anchored = true) :
    pattern.Decomposes line before ps ↔
      before = [] ∧ Fits (fun s => s.isEmpty) pattern.parts (Text.trim line) ps [] := by
  unfold Decomposes
  rw [if_pos hanchored]
  constructor
  · rintro ⟨htakes, hbefore, hline⟩
    exact ⟨hbefore, htakes, by simp [hline], rfl⟩
  · rintro ⟨hbefore, htakes, hline, -⟩
    exact ⟨htakes, hbefore, by simp [hline]⟩

theorem decomposes_iff_of_not_anchored (hanchored : ¬ pattern.anchored = true) :
    pattern.Decomposes line before ps ↔
      ∃ t rest, line = before ++ t ∧ Fits (fun _ => true) pattern.parts t ps rest := by
  unfold Decomposes
  rw [if_neg hanchored]
  constructor
  · rintro ⟨htakes, after, hline⟩
    exact ⟨_, after, hline, htakes, rfl, rfl⟩
  · rintro ⟨t, rest, hline, htakes, rfl, -⟩
    exact ⟨htakes, rest, hline⟩

theorem fit?_none (hmark : ∀ d, .mark d ∈ pattern.parts → isBlank d = false)
    (h : pattern.fit? line = none) : ¬ pattern.Decomposes line before ps := by
  intro hdec
  rw [fit?] at h
  split at h
  · rename_i hanchored
    obtain ⟨-, hfits⟩ := (decomposes_iff_of_anchored hanchored).1 hdec
    exact fit_none hmark (Option.map_eq_none_iff.1 h) ps [] hfits
  · rename_i hanchored
    obtain ⟨t, rest, hline, hfits⟩ := (decomposes_iff_of_not_anchored hanchored).1 hdec
    exact fit_none hmark (firstFit_none h hline) ps rest hfits

theorem fit?_some (hmark : ∀ d, .mark d ∈ pattern.parts → isBlank d = false) {t : Text}
    {lengths : List Nat} (h : pattern.fit? line = some (t, lengths)) :
    ∃ before ps, pattern.Chooses line before ps ∧ pieces lengths t = ps := by
  rw [fit?] at h
  split at h
  · rename_i hanchored
    obtain ⟨_, hfit, heq⟩ := Option.map_eq_some_iff.1 h
    cases heq
    obtain ⟨ps, rest, hfits, rfl, hgreatest⟩ := fit_some hmark hfit
    have hrest : rest = [] := List.isEmpty_iff.1 hfits.accepted
    subst hrest
    have hdec : pattern.Decomposes line [] ps :=
      (decomposes_iff_of_anchored hanchored).2 ⟨rfl, hfits⟩
    refine ⟨[], ps, ⟨hdec, fun _ _ _ => Nat.zero_le _, fun ps' hps' => ?_⟩, ?_⟩
    · exact hgreatest ps' [] ((decomposes_iff_of_anchored hanchored).1 hps').2
    · have hpieces := pieces_lengths ps []
      rwa [← hfits.split] at hpieces
  · rename_i hanchored
    obtain ⟨before, rfl, hfit, hfirst⟩ := firstFit_some h
    obtain ⟨ps, rest, hfits, rfl, hgreatest⟩ := fit_some hmark hfit
    have hdec : pattern.Decomposes (before ++ t) before ps :=
      (decomposes_iff_of_not_anchored hanchored).2 ⟨t, rest, rfl, hfits⟩
    refine ⟨before, ps, ⟨hdec, fun before' ps' hps' => ?_, fun ps' hps' => ?_⟩, ?_⟩
    · obtain ⟨t', rest', hline, hfits'⟩ :=
        (decomposes_iff_of_not_anchored hanchored).1 hps'
      by_contra hlt
      exact fit_none hmark (hfirst before' t' hline (by omega)) ps' rest' hfits'
    · obtain ⟨t', rest', hline, hfits'⟩ :=
        (decomposes_iff_of_not_anchored hanchored).1 hps'
      cases List.append_cancel_left hline
      exact hgreatest ps' rest' hfits'
    · rw [hfits.split]
      exact pieces_lengths ps rest

/-- **The fields of the decomposition that is chosen are found.** -/
theorem fieldTexts?_eq_some_iff (hmark : ∀ d, .mark d ∈ pattern.parts → isBlank d = false)
    {texts : List Text} : pattern.fieldTexts? line = some texts ↔
      ∃ before ps, pattern.Chooses line before ps ∧ texts = fieldPieces pattern.parts ps := by
  cases h : pattern.fit? line with
  | none =>
    simp only [fieldTexts?, h, Option.map_none, reduceCtorEq, false_iff]
    rintro ⟨before, ps, hchosen, -⟩
    exact fit?_none hmark h hchosen.decomposes
  | some found =>
    obtain ⟨before, ps, hchosen, hps⟩ := fit?_some hmark h
    simp only [fieldTexts?, h, Option.map_some, hps, Option.some.injEq]
    constructor
    · rintro rfl
      exact ⟨before, ps, hchosen, rfl⟩
    · rintro ⟨before', ps', hchosen', rfl⟩
      rw [(hchosen'.unique hchosen).2]

theorem fieldTexts?_eq_none_iff (hmark : ∀ d, .mark d ∈ pattern.parts → isBlank d = false) :
    pattern.fieldTexts? line = none ↔ ¬ ∃ before ps, pattern.Decomposes line before ps := by
  cases h : pattern.fit? line with
  | none =>
    simp only [fieldTexts?, h, Option.map_none, true_iff]
    rintro ⟨before, ps, hdec⟩
    exact fit?_none hmark h hdec
  | some found =>
    obtain ⟨before, ps, hchosen, -⟩ := fit?_some hmark h
    simp only [fieldTexts?, h, Option.map_some, reduceCtorEq, false_iff, not_not]
    exact ⟨before, ps, hchosen.decomposes⟩

/-- **The fields of the decomposition that is chosen are reported** under their names. -/
theorem match?_eq_some_iff (hmark : ∀ d, .mark d ∈ pattern.parts → isBlank d = false)
    {fields : List (Text × Text)} : pattern.match? line = some fields ↔
      ∃ before ps, pattern.Chooses line before ps ∧ fields = reported pattern.parts ps := by
  simp only [match?, Option.map_eq_some_iff, fieldTexts?_eq_some_iff hmark, fieldNames]
  constructor
  · rintro ⟨_, ⟨before, ps, hchosen, rfl⟩, rfl⟩
    exact ⟨before, ps, hchosen, zip_fieldPieces hchosen.decomposes.1⟩
  · rintro ⟨before, ps, hchosen, rfl⟩
    exact ⟨_, ⟨before, ps, hchosen, rfl⟩, zip_fieldPieces hchosen.decomposes.1⟩

/-- **The matcher finds the leftmost greatest decomposition.**  The parts of a pattern that is read
are the ones that the text spells.  The pattern matches a line just if the line has a
decomposition, and reports the trimmed fields of the one that is chosen. -/
theorem match?_spec {anchored : Bool} {written : Text} {pattern : Pattern}
    (hread : Pattern.read anchored written = .ok pattern) (line : Text) :
    pattern.anchored = anchored ∧ Spells pattern.parts written ∧
      (pattern.match? line = none ↔ ¬ ∃ before ps, pattern.Decomposes line before ps) ∧
      ∀ fields, pattern.match? line = some fields ↔
        ∃ before ps, pattern.Chooses line before ps ∧ fields = reported pattern.parts ps := by
  obtain ⟨hanchored, hspells⟩ := spells_of_read hread
  have hmark : ∀ d, .mark d ∈ pattern.parts → isBlank d = false := fun _ => hspells.mark_not_blank
  refine ⟨hanchored, hspells, ?_, fun _ => match?_eq_some_iff hmark⟩
  rw [match?, Option.map_eq_none_iff]
  exact fieldTexts?_eq_none_iff hmark

theorem eq_ok_of_toOption {ε α : Type} {result : Except ε α} {a : α}
    (h : result.toOption = some a) : result = .ok a := by
  cases result with
  | error e => cases h
  | ok b => cases h; rfl

/-- **The pattern of every form is the one that is written for it.** -/
theorem read_written (form : Form) :
    Pattern.read form.pattern.anchored form.written = .ok form.pattern :=
  eq_ok_of_toOption (by cases form <;> decide +kernel)

/-- An item may hold the words that come after it: the longest item is reported, without the blank at
its end, and the blanks around the line are left aside. -/
theorem match?_spec_price :
    Pattern.read true "$number:words $item:item is $credits:integer credits".toList =
        .ok Form.price.pattern ∧
      ∃ before ps,
        Form.price.pattern.Chooses "\t glob Iron is 5 credits  is 7 Credits \n".toList before ps ∧
        [("number".toList, "glob".toList), ("item".toList, "Iron is 5 credits".toList),
          ("credits".toList, "7".toList)] = reported Form.price.pattern.parts ps := by
  have hread : Pattern.read true "$number:words $item:item is $credits:integer credits".toList =
      .ok Form.price.pattern := read_written .price
  exact ⟨hread, ((match?_spec hread _).2.2.2 _).1 (by decide +kernel)⟩

end Pattern

end Tradespeak
