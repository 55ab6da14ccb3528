import Mathlib.Data.List.Basic
import Tradespeak.Text.Blank

/-!
# Runs of characters and phrases

* `IsRun` — characters of one class, at least one.
* `Phrase` — words with runs of blanks between them; `IsIndented` — the same with blanks before it,
  which is what is left of a phrase after a letter.
* `run_append_inj`, `append_run_inj` — where a run ends, or begins, is determined by the text.
* `phrase_cons`, `phrase_of_lower`, `isIndented_cons_lower`, `isIndented_cons_blank` — phrases one
  character at a time.
* `phrase_head`, `phrase_append_head`, `phrase_getLast`, `phrase_chars` — what a phrase begins and ends with.
-/

set_option autoImplicit false

namespace Tradespeak

/-- A run of characters of a class, at least one. -/
def IsRun (inClass : Char → Bool) (s : Text) : Prop := s ≠ [] ∧ ∀ c ∈ s, inClass c = true

/-- The words with runs of blanks between them make the phrase. -/
inductive Phrase : List Text → Text → Prop
  | word {w : Text} (hw : IsRun isLower w) : Phrase [w] w
  | cons {w blanks s : Text} {ws : List Text} (hw : IsRun isLower w) (hb : IsRun isBlank blanks)
      (hs : Phrase ws s) : Phrase (w :: ws) (w ++ (blanks ++ s))

/-- Blanks, or none, and a phrase. -/
def IsIndented (s : Text) : Prop :=
  ∃ blanks p ws, (∀ c ∈ blanks, isBlank c = true) ∧ Phrase ws p ∧ s = blanks ++ p

/-! ## Runs -/

variable {c : Char} {p : Text}

theorem isRun_cons {inClass : Char → Bool} (hc : inClass c = true) :
    IsRun inClass (c :: p) ↔ p = [] ∨ IsRun inClass p := by
  constructor
  · intro h
    by_cases hp : p = []
    · exact Or.inl hp
    · exact Or.inr ⟨hp, fun d hd => h.2 d (List.mem_cons_of_mem _ hd)⟩
  · intro h
    refine ⟨by simp, fun d hd => ?_⟩
    rcases List.mem_cons.1 hd with rfl | hd
    · exact hc
    · rcases h with rfl | h
      · cases hd
      · exact h.2 d hd

theorem IsRun.exists_cons {inClass : Char → Bool} (hp : IsRun inClass p) :
    ∃ c rest, p = c :: rest ∧ inClass c = true := by
  obtain ⟨hnil, hclass⟩ := hp
  cases p with
  | nil => exact absurd rfl hnil
  | cons c rest => exact ⟨c, rest, rfl, hclass c List.mem_cons_self⟩

/-- A character outside the class is not among characters of the class. -/
theorem not_mem_of_class {inClass : Char → Bool} (hc : inClass c = false)
    (hp : ∀ d ∈ p, inClass d = true) : c ∉ p := by
  intro hmem
  rw [hp c hmem] at hc
  cases hc

theorem isRun_space : IsRun isBlank [' '] := (isRun_cons (by decide)).2 (Or.inl rfl)

theorem takeWhile_run_append {inClass : Char → Bool} {rest : Text} (hp : ∀ c ∈ p, inClass c = true)
    (hrest : ∀ c ∈ rest.head?, inClass c = false) : (p ++ rest).takeWhile inClass = p := by
  rw [List.takeWhile_append_of_pos hp]
  cases rest with
  | nil => simp
  | cons c rest => rw [List.takeWhile_cons_of_neg (by simp [hrest c rfl]), List.append_nil]

theorem dropWhile_run_append {inClass : Char → Bool} {rest : Text} (hp : ∀ c ∈ p, inClass c = true)
    (hrest : ∀ c ∈ rest.head?, inClass c = false) : (p ++ rest).dropWhile inClass = rest := by
  rw [List.dropWhile_append_of_pos hp]
  cases rest with
  | nil => rfl
  | cons c rest => rw [List.dropWhile_cons_of_neg (by simp [hrest c rfl])]

/-- A run that ends where the class ends is determined by the text. -/
theorem run_append_inj {inClass : Char → Bool} {q s t : Text} (hp : ∀ c ∈ p, inClass c = true)
    (hq : ∀ c ∈ q, inClass c = true) (hs : ∀ c ∈ s.head?, inClass c = false)
    (ht : ∀ c ∈ t.head?, inClass c = false) (h : p ++ s = q ++ t) : p = q ∧ s = t := by
  have hpq : p = q := by
    rw [← takeWhile_run_append hp hs, h, takeWhile_run_append hq ht]
  subst hpq
  exact ⟨rfl, List.append_cancel_left h⟩

/-- A run that begins where the class begins is determined by the text that it ends. -/
theorem append_run_inj {inClass : Char → Bool} {q s t : Text} (hp : ∀ c ∈ p, inClass c = true)
    (hq : ∀ c ∈ q, inClass c = true) (hs : ∀ c ∈ s.getLast?, inClass c = false)
    (ht : ∀ c ∈ t.getLast?, inClass c = false) (h : s ++ p = t ++ q) : s = t ∧ p = q := by
  have hreverse := congrArg List.reverse h
  rw [List.reverse_append, List.reverse_append] at hreverse
  have hpq := run_append_inj (by simpa using hp) (by simpa using hq)
    (by rwa [List.head?_reverse]) (by rwa [List.head?_reverse]) hreverse
  exact ⟨List.reverse_injective hpq.2, List.reverse_injective hpq.1⟩

theorem isBlank_of_isLower (h : isLower c = true) : isBlank c = false := by
  rw [isLower, Bool.and_eq_true, decide_eq_true_iff, decide_eq_true_iff] at h
  have h1 : 97 ≤ c.toNat := h.1
  have h2 : c.toNat ≤ 122 := h.2
  simp [isBlank, covers, blankRanges]
  omega

/-! ## Phrases one character at a time -/

theorem phrase_ne_nil {ws : List Text} (h : Phrase ws p) : p ≠ [] := by
  cases h with
  | word hw => exact hw.1
  | cons hw _ _ => simp [hw.1]

/-- The first letter of a phrase, and what is left without it: nothing, a phrase, or a run of blanks
and a phrase. -/
theorem phrase_cons {ws : List Text} (hp : Phrase ws (c :: p)) :
    isLower c = true ∧ (p = [] ∨ IsIndented p) := by
  generalize hq : c :: p = q at hp
  cases hp with
  | word hw =>
    subst hq
    refine ⟨hw.2 c List.mem_cons_self, ?_⟩
    rcases (isRun_cons (hw.2 c List.mem_cons_self)).1 hw with hp | hp
    · exact Or.inl hp
    · exact Or.inr ⟨[], p, [p], by simp, .word hp, rfl⟩
  | @cons w blanks s ws hw hb hs =>
    cases w with
    | nil => exact absurd rfl hw.1
    | cons d w =>
      rw [List.cons_append, List.cons.injEq] at hq
      obtain ⟨rfl, rfl⟩ := hq
      refine ⟨hw.2 c List.mem_cons_self, Or.inr ?_⟩
      rcases (isRun_cons (hw.2 c List.mem_cons_self)).1 hw with rfl | hw
      · exact ⟨blanks, s, ws, hb.2, hs, rfl⟩
      · exact ⟨[], _, _, by simp, .cons hw hb hs, rfl⟩

theorem phrase_of_lower (hc : isLower c = true) (hp : p = [] ∨ IsIndented p) :
    ∃ ws, Phrase ws (c :: p) := by
  have hone : IsRun isLower [c] := (isRun_cons hc).2 (Or.inl rfl)
  have hrun : ∀ {w}, IsRun isLower w → IsRun isLower (c :: w) :=
    fun hw => (isRun_cons hc).2 (Or.inr hw)
  rcases hp with rfl | ⟨blanks, q, ws, hb, hq, rfl⟩
  · exact ⟨_, .word hone⟩
  · by_cases hnil : blanks = []
    · subst hnil
      cases hq with
      | word hw => exact ⟨_, .word (hrun hw)⟩
      | cons hw hb hs => exact ⟨_, .cons (hrun hw) hb hs⟩
    · exact ⟨_, .cons hone ⟨hnil, hb⟩ hq⟩

theorem isIndented_of_phrase {ws : List Text} (hp : Phrase ws p) : IsIndented p :=
  ⟨[], p, ws, by simp, hp, rfl⟩

/-- A text that is indented begins with a blank or is a phrase. -/
theorem isIndented_cons (h : IsIndented (c :: p)) :
    isBlank c = true ∧ IsIndented p ∨ ∃ ws, Phrase ws (c :: p) := by
  obtain ⟨blanks, q, ws, hb, hq, hp⟩ := h
  cases blanks with
  | nil => exact Or.inr ⟨ws, hp ▸ hq⟩
  | cons d blanks =>
    rw [List.cons_append, List.cons.injEq] at hp
    obtain ⟨rfl, rfl⟩ := hp
    exact Or.inl ⟨hb c List.mem_cons_self, blanks, q, ws,
      fun x hx => hb x (List.mem_cons_of_mem _ hx), hq, rfl⟩

theorem isIndented_cons_lower (hc : isLower c = true) :
    IsIndented (c :: p) ↔ p = [] ∨ IsIndented p := by
  constructor
  · intro h
    rcases isIndented_cons h with ⟨hb, -⟩ | ⟨ws, hp⟩
    · rw [isBlank_of_isLower hc] at hb
      cases hb
    · exact (phrase_cons hp).2
  · intro h
    obtain ⟨ws, hp⟩ := phrase_of_lower hc h
    exact isIndented_of_phrase hp

theorem isIndented_cons_blank (hl : isLower c = false) (hc : isBlank c = true) :
    IsIndented (c :: p) ↔ IsIndented p := by
  constructor
  · intro h
    rcases isIndented_cons h with ⟨-, hp⟩ | ⟨ws, hp⟩
    · exact hp
    · rw [(phrase_cons hp).1] at hl
      cases hl
  · rintro ⟨blanks, q, ws, hb, hq, rfl⟩
    exact ⟨c :: blanks, q, ws, by simpa using ⟨hc, hb⟩, hq, rfl⟩

theorem phrase_head {ws : List Text} (hp : Phrase ws p) : ∀ c ∈ p.head?, isLower c = true := by
  intro c hc
  cases p with
  | nil => cases hc
  | cons d p => cases hc; exact (phrase_cons hp).1

theorem phrase_append_head {ws : List Text} (hp : Phrase ws p) (s : Text) :
    ∀ c ∈ (p ++ s).head?, isLower c = true := by
  rw [List.head?_append_of_ne_nil _ (phrase_ne_nil hp)]
  exact phrase_head hp

theorem phrase_getLast {ws : List Text} (hp : Phrase ws p) :
    ∀ c ∈ p.getLast?, isLower c = true := by
  induction hp with
  | word hw => exact fun c hc => hw.2 c (List.mem_of_getLast? hc)
  | cons _ _ hs ih =>
    intro c hc
    rw [← List.append_assoc, List.getLast?_append_of_ne_nil _ (phrase_ne_nil hs)] at hc
    exact ih c hc

theorem phrase_chars {ws : List Text} (hp : Phrase ws p) :
    ∀ c ∈ p, (isLower c || isBlank c) = true := by
  induction hp with
  | word hw => intro c hc; simp [hw.2 c hc]
  | cons hw hb _ ih =>
    intro c hc
    rcases List.mem_append.1 hc with hc | hc
    · simp [hw.2 c hc]
    rcases List.mem_append.1 hc with hc | hc
    · simp [hb.2 c hc]
    · exact ih c hc

/-- Words make a phrase, with one space between each and the next. -/
theorem exists_phrase {ws : List Text} (hnil : ws ≠ []) (hws : ∀ w ∈ ws, IsRun isLower w) :
    ∃ p, Phrase ws p := by
  induction ws with
  | nil => exact absurd rfl hnil
  | cons w ws ih =>
    have hw := hws w List.mem_cons_self
    by_cases hlast : ws = []
    · subst hlast
      exact ⟨w, .word hw⟩
    · obtain ⟨p, hp⟩ := ih hlast fun v hv => hws v (List.mem_cons_of_mem _ hv)
      exact ⟨_, .cons hw isRun_space hp⟩

theorem not_isIndented_nil : ¬ IsIndented [] := by
  rintro ⟨blanks, q, ws, -, hq, h⟩
  exact phrase_ne_nil hq (List.append_eq_nil_iff.1 h.symm).2

end Tradespeak
