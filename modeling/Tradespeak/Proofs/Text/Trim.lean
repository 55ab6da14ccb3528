import Mathlib.Data.List.TakeWhile
import Tradespeak.Proofs.Text.Classes
import Tradespeak.Proofs.Text.Words

/-!
# What trimming leaves

* `trim_spec` — a text is what trimming leaves, between two runs of blanks, and this has a blank at
  neither end.
* `trim_trim` — trimming a second time leaves all.
* `trim_append_blanks`, `trim_margins` — blanks at the end, or at both ends, make no difference.
* `IsItemName` — an upper-case letter, and after it no line break and no blank at the end.

Principal result: `isItemName_trim` — what trimming leaves of an upper-case letter and the text
after it on the line is the name of an item.
-/

set_option autoImplicit false

namespace Tradespeak

namespace Text

variable {c : Char} {s : Text}

theorem trimStart_spec (s : Text) : ∃ before, s = before ++ trimStart s ∧
    (∀ c ∈ before, isBlank c = true) ∧ ∀ c ∈ (trimStart s).head?, isBlank c = false := by
  refine ⟨s.takeWhile isBlank, List.takeWhile_append_dropWhile.symm,
    fun c hc => List.mem_takeWhile_imp hc, fun c hc => ?_⟩
  have hhead := List.head?_dropWhile_not isBlank s
  rw [trimStart, Option.mem_def] at hc
  rw [hc] at hhead
  exact hhead

theorem trimEnd_spec (s : Text) : ∃ after, s = trimEnd s ++ after ∧
    (∀ c ∈ after, isBlank c = true) ∧ ∀ c ∈ (trimEnd s).getLast?, isBlank c = false := by
  obtain ⟨before, hs, hbefore, hhead⟩ := trimStart_spec s.reverse
  refine ⟨before.reverse, ?_, by simpa using hbefore, ?_⟩
  · have hreverse := congrArg List.reverse hs
    rwa [List.reverse_reverse, List.reverse_append] at hreverse
  · rwa [trimEnd, List.getLast?_reverse]

/-- **A text is what trimming leaves, between two runs of blanks**, and this has a blank at neither
end. -/
theorem trim_spec (s : Text) : ∃ before after, s = before ++ (trim s ++ after) ∧
    (∀ c ∈ before, isBlank c = true) ∧ (∀ c ∈ after, isBlank c = true) ∧
    (∀ c ∈ (trim s).head?, isBlank c = false) ∧ ∀ c ∈ (trim s).getLast?, isBlank c = false := by
  obtain ⟨before, hs, hbefore, hhead⟩ := trimStart_spec s
  obtain ⟨after, ht, hafter, hlast⟩ := trimEnd_spec (trimStart s)
  refine ⟨before, after, ?_, hbefore, hafter, fun c hc => ?_, hlast⟩
  · rw [trim, ← ht, ← hs]
  · apply hhead
    rw [ht, List.head?_append, Option.mem_def]
    rw [trim, Option.mem_def] at hc
    rw [hc]
    rfl

/-- What trimming leaves stands in the text. -/
theorem infix_trim (s : Text) : trim s <:+: s := by
  obtain ⟨before, after, hs, -⟩ := trim_spec s
  exact ⟨before, after, by rw [List.append_assoc, ← hs]⟩

/-- Trimming a second time leaves all. -/
theorem trim_trim (s : Text) : trim (trim s) = trim s := by
  obtain ⟨-, -, -, -, -, hhead, hlast⟩ := trim_spec s
  exact trim_eq_self hhead hlast

theorem mem_of_mem_trim (h : c ∈ trim s) : c ∈ s := (infix_trim s).mem h

/-- Trimming takes nothing but blanks away. -/
theorem count_trim (hc : isBlank c = false) (s : Text) : (trim s).count c = s.count c := by
  obtain ⟨before, after, hs, hbefore, hafter, -⟩ := trim_spec s
  have hnone : ∀ blanks : Text, (∀ d ∈ blanks, isBlank d = true) → blanks.count c = 0 :=
    fun blanks hblanks => List.count_eq_zero.2 (not_mem_of_class hc hblanks)
  conv_rhs => rw [hs, List.count_append, List.count_append, hnone before hbefore, hnone after hafter]
  rw [Nat.zero_add, Nat.add_zero]

theorem mem_trim_of_mem (hc : isBlank c = false) (h : c ∈ s) : c ∈ trim s := by
  rw [← List.count_pos_iff] at h ⊢
  rwa [count_trim hc]

/-- A first character that is no blank stays the first. -/
theorem trim_cons (hc : isBlank c = false) : ∃ rest, trim (c :: s) = c :: rest := by
  obtain ⟨before, after, hs, hbefore, hafter, -⟩ := trim_spec (c :: s)
  cases before with
  | cons d before =>
    rw [(List.cons.inj hs).1, hbefore d List.mem_cons_self] at hc
    cases hc
  | nil =>
    cases htrim : trim (c :: s) with
    | nil =>
      rw [htrim, List.nil_append, List.nil_append] at hs
      rw [hafter c (hs ▸ List.mem_cons_self)] at hc
      cases hc
    | cons d rest =>
      rw [htrim, List.nil_append, List.cons_append] at hs
      rw [(List.cons.inj hs).1]
      exact ⟨rest, rfl⟩

theorem trimEnd_append_blanks {blanks : Text} (s : Text) (hb : ∀ c ∈ blanks, isBlank c = true) :
    trimEnd (s ++ blanks) = trimEnd s := by
  rw [trimEnd, trimEnd, trimStart, trimStart, List.reverse_append,
    List.dropWhile_append_of_pos (by simpa using hb)]

/-- Blanks at the end make no difference. -/
theorem trim_append_blanks {blanks : Text} (s : Text) (hb : ∀ c ∈ blanks, isBlank c = true) :
    trim (s ++ blanks) = trim s := by
  rw [trim, trim, trimStart, trimStart, List.dropWhile_append]
  split
  · rename_i hnil
    rw [List.isEmpty_iff.1 hnil, List.dropWhile_eq_nil_iff.2 hb]
  · exact trimEnd_append_blanks _ hb

/-- Blanks around a text make no difference. -/
theorem trim_margins {before after : Text} (hbefore : ∀ c ∈ before, isBlank c = true)
    (hafter : ∀ c ∈ after, isBlank c = true) (s : Text) :
    trim (before ++ (s ++ after)) = trim s := by
  have hstart : trimStart (before ++ (s ++ after)) = trimStart (s ++ after) :=
    List.dropWhile_append_of_pos hbefore
  rw [← trim_append_blanks s hafter, trim, trim, hstart]

end Text

/-! ## Names of items -/

/-- **The name of an item**: it begins with an upper-case letter, stands on one line, and has a
blank at neither end. -/
structure IsItemName (s : Text) : Prop where
  upper : ∃ c rest, isUpper c = true ∧ s = c :: rest
  oneLine : '\n' ∉ s
  trimmed : Text.trim s = s

variable {c : Char} {s : Text}

/-- **Trimming leaves the name of an item** of an upper-case letter and the text after it on the
line. -/
theorem isItemName_trim (hc : isUpper c = true) (hs : '\n' ∉ s) :
    IsItemName (Text.trim (c :: s)) := by
  obtain ⟨rest, hrest⟩ := Text.trim_cons (s := s) (isBlank_of_isUpper hc)
  refine ⟨⟨c, rest, hc, hrest⟩, fun hbreak => ?_, Text.trim_trim _⟩
  rcases List.mem_cons.1 (Text.mem_of_mem_trim hbreak) with rfl | hbreak
  · exact absurd hc (by decide)
  · exact hs hbreak

end Tradespeak
