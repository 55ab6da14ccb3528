import Mathlib.Data.List.Perm.Basic
import Tradespeak.Proofs.Pattern.Closing
import Tradespeak.Proofs.Request.CostQuestion
import Tradespeak.Proofs.Request.PriceLine

/-!
# Lines of more than one form

* `Occurs`, `Ends` — pieces for some parts stand anywhere in a text, or at its end.
* `Form.Ambiguous` — the lines with a question mark that end as a price does, or that hold the words
  of both questions.
* `Form.teach_read_excludes` — a line that teaches a word has no other form.
* `Form.ambiguous_of_reads` — a line of two forms is ambiguous.
* `ofLine?_eq_some_of_read` — a form that no other form of the list competes with is the one that is
  found.

Principal result: `Request.ofLine?_perm` — of a line that is not ambiguous, the request does not
depend on the order in which the forms are tried.
-/

set_option autoImplicit false

namespace Tradespeak

namespace Pattern

variable {parts front last : List Part} {part : Part} {ps : List Text} {c d : Char}
  {pattern : Pattern} {line before s : Text}

/-- Pieces for the parts stand somewhere in the text. -/
def Occurs (parts : List Part) (s : Text) : Prop :=
  ∃ before ps after, List.Forall₂ Part.Takes parts ps ∧ s = before ++ (ps.flatten ++ after)

/-- The text ends with pieces for the parts. -/
def Ends (parts : List Part) (s : Text) : Prop :=
  ∃ before ps, List.Forall₂ Part.Takes parts ps ∧ s = before ++ ps.flatten

/-! ## Characters of the pieces -/

theorem mem_flatten_of_mark (h : List.Forall₂ Part.Takes parts ps) (hmark : .mark d ∈ parts) :
    d ∈ ps.flatten := by
  induction h with
  | nil => cases hmark
  | @cons part p parts ps hp _ ih =>
    rw [List.flatten_cons, List.mem_append]
    rcases List.mem_cons.1 hmark with rfl | hmark
    · obtain ⟨blanks, -, rfl⟩ := hp
      exact Or.inl (by simp)
    · exact Or.inr (ih hmark)

theorem exists_sameLetter_of_letter (h : List.Forall₂ Part.Takes parts ps)
    (hletter : .letter d ∈ parts) : ∃ c ∈ ps.flatten, sameLetter d c = true := by
  induction h with
  | nil => cases hletter
  | @cons part p parts ps hp _ ih =>
    rcases List.mem_cons.1 hletter with rfl | hletter
    · obtain ⟨c, hc, rfl⟩ := hp
      exact ⟨c, by simp, hc⟩
    · obtain ⟨c, hmem, hc⟩ := ih hletter
      exact ⟨c, List.mem_append_right _ hmem, hc⟩

/-- Nothing is found of parts with a letter that the text has in no case. -/
theorem not_occurs_of_letter (hletter : .letter d ∈ parts)
    (hnone : (s.all fun c => !sameLetter d c) = true) : ¬ Occurs parts s := by
  rintro ⟨before, ps, after, hps, rfl⟩
  obtain ⟨c, hmem, hc⟩ := exists_sameLetter_of_letter hps hletter
  have hnot := List.all_eq_true.1 hnone c
    (List.mem_append_right _ (List.mem_append_left _ hmem))
  rw [hc] at hnot
  cases hnot

theorem Ends.occurs (h : Ends parts s) : Occurs parts s := by
  obtain ⟨before, ps, hps, rfl⟩ := h
  exact ⟨before, ps, [], hps, by simp⟩

/-! ## Decompositions -/

/-- A mark of the pattern stands in every line that is decomposed. -/
theorem mem_of_decomposes (hmark : .mark d ∈ pattern.parts)
    (h : pattern.Decomposes line before ps) : d ∈ line := by
  obtain ⟨htakes, hline⟩ := h
  have hmem := mem_flatten_of_mark htakes hmark
  split at hline
  · rw [hline.2] at hmem
    exact Text.mem_of_mem_trim hmem
  · obtain ⟨after, rfl⟩ := hline
    exact List.mem_append_right _ (List.mem_append_left _ hmem)

theorem occurs_of_decomposes (hanchored : pattern.anchored = false)
    (hparts : pattern.parts = front ++ last) (h : pattern.Decomposes line before ps) :
    Occurs front line := by
  obtain ⟨htakes, hline⟩ := h
  rw [if_neg (by simp [hanchored])] at hline
  obtain ⟨after, rfl⟩ := hline
  rw [hparts, takes_append_iff] at htakes
  obtain ⟨first, later, rfl, hfirst, -⟩ := htakes
  exact ⟨before, first, later.flatten ++ after, hfirst, by simp⟩

theorem ends_trim_of_decomposes (hanchored : pattern.anchored = true)
    (hparts : pattern.parts = front ++ last) (h : pattern.Decomposes line before ps) :
    Ends last (Text.trim line) := by
  obtain ⟨htakes, hline⟩ := h
  rw [if_pos hanchored] at hline
  rw [hparts, takes_append_iff] at htakes
  obtain ⟨first, later, rfl, -, hlater⟩ := htakes
  exact ⟨first.flatten, later, hlater, by rw [← hline.2, List.flatten_append]⟩

end Pattern

namespace Form

open Pattern

variable {line : Text} {form form' : Form} {request request' : Request}

/-- The words that a question for a number begins with. -/
def numberOpening : List Part :=
  letters "how".toList ++ .gap :: (letters "much".toList ++ .gap :: letters "is".toList)

/-- The unit that a price ends with. -/
def priceUnit : List Part := letters "credits".toList

/-- **The lines that may have more than one form.**  They have a question mark, and either they end
as a price does, blanks aside, or the words of both questions stand in them. -/
def Ambiguous (line : Text) : Prop :=
  '?' ∈ line ∧
    (Ends priceUnit (Text.trim line) ∨ Occurs numberOpening line ∧ Occurs costOpening line)

theorem not_ambiguous_of_not_mem (h : '?' ∉ line) : ¬ Ambiguous line := fun hline => h hline.1

/-! ## What each form needs -/

theorem number_parts_opening : Form.number.pattern.parts = numberOpening ++
    [.gap, .field "number".toList .words, .mark '?'] := by
  simp [number_parts, numberOpening]

theorem price_parts_unit : Form.price.pattern.parts = (.field "number".toList .words :: .gap ::
    .field "item".toList .item :: .gap :: (letters "is".toList ++
      [.gap, .field "credits".toList .integer, .gap])) ++ priceUnit := by
  simp [price_parts, priceEnd, priceUnit]

theorem mem_of_number_read (h : Form.number.read line = some request) : '?' ∈ line := by
  obtain ⟨before, ps, hdec⟩ := exists_decomposition h
  exact mem_of_decomposes (by simp [number_parts]) hdec

theorem mem_of_cost_read (h : Form.cost.read line = some request) : '?' ∈ line := by
  obtain ⟨before, ps, hdec⟩ := exists_decomposition h
  exact mem_of_decomposes (by simp [cost_parts]) hdec

theorem occurs_of_number_read (h : Form.number.read line = some request) :
    Occurs numberOpening line := by
  obtain ⟨before, ps, hdec⟩ := exists_decomposition h
  exact occurs_of_decomposes rfl number_parts_opening hdec

theorem occurs_of_cost_read (h : Form.cost.read line = some request) : Occurs costOpening line := by
  obtain ⟨before, ps, hdec⟩ := exists_decomposition h
  exact occurs_of_decomposes rfl cost_parts hdec

theorem ends_of_price_read (h : Form.price.read line = some request) :
    Ends priceUnit (Text.trim line) := by
  obtain ⟨before, ps, hdec⟩ := exists_decomposition h
  exact ends_trim_of_decomposes rfl price_parts_unit hdec

/-- No piece of a line that teaches a word has a question mark. -/
theorem not_mem_of_teach_read (h : Form.teach.read line = some request) : '?' ∉ line := by
  obtain ⟨before, ps, htakes, hline⟩ := exists_decomposition h
  have hparts : ∀ part ∈ Form.teach.pattern.parts, part.avoids '?' = true := by decide +kernel
  intro hmem
  -- a question mark is no blank, so that trimming leaves it
  have htrim := Text.mem_trim_of_mem (by decide) hmem
  rw [← hline.2] at htrim
  exact not_mem_flatten htakes hparts htrim

theorem isRomanDigit_not_sameLetter {c : Char} (hc : isRomanDigit c = true) :
    sameLetter 's' c = false := by
  simp only [isRomanDigit, Bool.or_eq_true, beq_iff_eq] at hc
  rcases hc with (((((rfl | rfl) | rfl) | rfl) | rfl) | rfl) | rfl <;> decide +kernel

/-! ## Lines of two forms -/

/-- **A line that teaches a word has no other form**: it has no question mark, and it ends with a
Roman digit. -/
theorem teach_read_excludes (h : Form.teach.read line = some request) (hform : form ≠ .teach) :
    form.read line = none := by
  rw [Option.eq_none_iff_forall_ne_some]
  intro request' h'
  have hmark := not_mem_of_teach_read h
  cases form with
  | teach => exact hform rfl
  | price =>
    obtain ⟨s, c, hs, hc⟩ := teach_ends h
    obtain ⟨s', c', hs', hc'⟩ := price_ends h'
    rw [hs] at hs'
    obtain ⟨-, heq⟩ := List.append_inj' hs' rfl
    cases heq
    rw [isRomanDigit_not_sameLetter hc] at hc'
    cases hc'
  | number => exact hmark (mem_of_number_read h')
  | cost => exact hmark (mem_of_cost_read h')

/-- **A line of two forms is ambiguous.** -/
theorem ambiguous_of_reads (hne : form ≠ form') (h : form.read line = some request)
    (h' : form'.read line = some request') : Ambiguous line := by
  have hteach : form ≠ .teach := by
    rintro rfl
    rw [teach_read_excludes h hne.symm] at h'
    cases h'
  have hteach' : form' ≠ .teach := by
    rintro rfl
    rw [teach_read_excludes h' hne] at h
    cases h
  cases form with
  | teach => exact absurd rfl hteach
  | price =>
    cases form' with
    | teach => exact absurd rfl hteach'
    | price => exact absurd rfl hne
    | number => exact ⟨mem_of_number_read h', Or.inl (ends_of_price_read h)⟩
    | cost => exact ⟨mem_of_cost_read h', Or.inl (ends_of_price_read h)⟩
  | number =>
    cases form' with
    | teach => exact absurd rfl hteach'
    | price => exact ⟨mem_of_number_read h, Or.inl (ends_of_price_read h')⟩
    | number => exact absurd rfl hne
    | cost => exact ⟨mem_of_cost_read h', Or.inr ⟨occurs_of_number_read h, occurs_of_cost_read h'⟩⟩
  | cost =>
    cases form' with
    | teach => exact absurd rfl hteach'
    | price => exact ⟨mem_of_cost_read h, Or.inl (ends_of_price_read h')⟩
    | number => exact ⟨mem_of_cost_read h, Or.inr ⟨occurs_of_number_read h', occurs_of_cost_read h⟩⟩
    | cost => exact absurd rfl hne

/-- Both questions may stand in one line. -/
example : (Form.number.read "how many credits is glob Silver, how much is glob?".toList).isSome ∧
    (Form.cost.read "how many credits is glob Silver, how much is glob?".toList).isSome := by
  decide +kernel

end Form

/-! ## The order of the forms -/

namespace Request

variable {forms forms' : List Form} {form : Form} {line : Text} {request : Request}

/-- A form that no other form of the list competes with is the one that is found. -/
theorem ofLine?_eq_some_of_read (hform : form ∈ forms) (hread : form.read line = some request)
    (hother : ∀ form' ∈ forms, form' ≠ form → form'.read line = none) :
    ofLine? forms line = some request := by
  unfold ofLine?
  induction forms with
  | nil => cases hform
  | cons first rest ih =>
    rw [List.findSome?_cons]
    by_cases hfirst : first = form
    · rw [hfirst, hread]
    · rw [hother first List.mem_cons_self hfirst]
      refine ih ?_ fun form' hform' => hother form' (List.mem_cons_of_mem _ hform')
      exact (List.mem_cons.1 hform).resolve_left (Ne.symm hfirst)

/-- **Of a line that is not ambiguous, the request does not depend on the order in which the forms
are tried.** -/
theorem ofLine?_perm (hforms : forms.Perm forms') (hline : ¬ Form.Ambiguous line) :
    ofLine? forms line = ofLine? forms' line := by
  have hother : ∀ (form : Form) request, form.read line = some request →
      ∀ form' : Form, form' ≠ form → form'.read line = none := by
    intro form request hread form' hne
    rw [Option.eq_none_iff_forall_ne_some]
    intro request' hread'
    exact hline (Form.ambiguous_of_reads hne hread' hread)
  by_cases hread : ∃ form ∈ forms, ∃ request, form.read line = some request
  · obtain ⟨form, hform, request, hread⟩ := hread
    rw [ofLine?_eq_some_of_read hform hread fun form' _ => hother form request hread form',
      ofLine?_eq_some_of_read (hforms.mem_iff.1 hform) hread
        fun form' _ => hother form request hread form']
  · have hnone : ∀ form ∈ forms, form.read line = none := by
      intro form hform
      rw [Option.eq_none_iff_forall_ne_some]
      exact fun request h => hread ⟨form, hform, request, h⟩
    have hfirst : ofLine? forms line = none := List.findSome?_eq_none_iff.2 hnone
    have hsecond : ofLine? forms' line = none :=
      List.findSome?_eq_none_iff.2 fun form hform => hnone form (hforms.mem_iff.2 hform)
    rw [hfirst, hsecond]

/-- A line that teaches a word teaches it, whichever other forms are tried before. -/
theorem ofLine?_of_teach_read (hforms : .teach ∈ forms)
    (hread : Form.teach.read line = some request) : ofLine? forms line = some request :=
  ofLine?_eq_some_of_read hforms hread fun _ _ hne => Form.teach_read_excludes hread hne

end Request

end Tradespeak
