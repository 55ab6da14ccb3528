import Tradespeak.Proofs.Pattern.Unambiguous
import Tradespeak.Proofs.Request.Fields

/-!
# Questions for a number

* `Form.teach_ends`, `Form.price_ends` — a line that defines a word ends with a Roman digit, and one
  that defines a price with the letter S, blanks aside.
* `ofLine?_all`, `ofLine?_question` — the forms are tried in order, and a line that ends with a
  question mark asks for a number or for a cost, if for anything.
* `numberQuestion` — the question which number a phrase says.
* `Form.number_read` — the question is read with just this phrase.

Principal result: `ofLine?_numberQuestion` — no earlier form takes the question away.
-/

set_option autoImplicit false

namespace Tradespeak

namespace Pattern

variable {parts : List Part} {part : Part} {ps : List Text}

/-- A line with an anchored pattern ends with a piece for the last part. -/
theorem ends_of_decomposes {pattern : Pattern} {line before : Text}
    (hanchored : pattern.anchored = true) (hparts : pattern.parts = parts ++ [part])
    (h : pattern.Decomposes line before ps) : ∃ s p, Text.trim line = s ++ p ∧ part.Takes p := by
  obtain ⟨htakes, hline⟩ := h
  rw [if_pos hanchored] at hline
  rw [hparts, takes_append_iff] at htakes
  obtain ⟨first, last, rfl, -, hlast⟩ := htakes
  cases hlast with
  | @cons _ p _ _ hp hnil =>
    cases hnil
    exact ⟨first.flatten, p, by rw [← hline.2]; simp, hp⟩

end Pattern

/-! ## What definitions end with -/

namespace Form

open Pattern

variable {line : Text} {request : Request}

theorem exists_decomposition {form : Form} (h : form.read line = some request) :
    ∃ before ps, form.pattern.Decomposes line before ps := by
  obtain ⟨before, ps, hchosen, -⟩ := read_eq_some_iff.1 h
  exact ⟨before, ps, hchosen.decomposes⟩

theorem teach_ends (h : Form.teach.read line = some request) :
    ∃ s c, Text.trim line = s ++ [c] ∧ isRomanDigit c = true := by
  obtain ⟨before, ps, hdec⟩ := exists_decomposition h
  have hparts : Form.teach.pattern.parts = (.field "word".toList .word :: .gap ::
      letters "is".toList ++ [.gap]) ++ [.field "digit".toList .digit] := by simp [pattern]
  obtain ⟨s, p, hline, c, hc, rfl⟩ := ends_of_decomposes rfl hparts hdec
  exact ⟨s, c, hline, hc⟩

theorem price_ends (h : Form.price.read line = some request) :
    ∃ s c, Text.trim line = s ++ [c] ∧ sameLetter 's' c = true := by
  obtain ⟨before, ps, hdec⟩ := exists_decomposition h
  have hparts : Form.price.pattern.parts = (.field "number".toList .words :: .gap ::
      .field "item".toList .item :: .gap :: letters "is".toList ++ .gap ::
      .field "credits".toList .integer :: .gap :: letters "credit".toList) ++ [.letter 's'] := by
    simp [pattern, letters]
  obtain ⟨s, p, hline, c, hc, rfl⟩ := ends_of_decomposes rfl hparts hdec
  exact ⟨s, c, hline, hc⟩

theorem teach_read_eq_none (h : ∀ c ∈ (Text.trim line).getLast?, isRomanDigit c = false) :
    Form.teach.read line = none := by
  rw [Option.eq_none_iff_forall_ne_some]
  intro request hread
  obtain ⟨s, c, hline, hc⟩ := teach_ends hread
  rw [h c (by simp [hline])] at hc
  cases hc

theorem price_read_eq_none (h : ∀ c ∈ (Text.trim line).getLast?, sameLetter 's' c = false) :
    Form.price.read line = none := by
  rw [Option.eq_none_iff_forall_ne_some]
  intro request hread
  obtain ⟨s, c, hline, hc⟩ := price_ends hread
  rw [h c (by simp [hline])] at hc
  cases hc

/-- A line that ends with a question mark defines nothing. -/
theorem question_read_eq_none {s : Text} (hs : ∀ c ∈ s.head?, isBlank c = false) (hnil : s ≠ []) :
    Form.teach.read (s ++ ['?']) = none ∧ Form.price.read (s ++ ['?']) = none := by
  have htrim : Text.trim (s ++ ['?']) = s ++ ['?'] := by
    refine Text.trim_eq_self (fun c hc => ?_) fun c hc => ?_
    · rw [List.head?_append_of_ne_nil _ hnil] at hc
      exact hs c hc
    · rw [List.getLast?_concat] at hc
      cases hc
      decide
  refine ⟨teach_read_eq_none fun c hc => ?_, price_read_eq_none fun c hc => ?_⟩
  · rw [htrim, List.getLast?_concat] at hc
    cases hc
    decide
  · rw [htrim, List.getLast?_concat] at hc
    cases hc
    decide +kernel

end Form

/-- The first of all forms that a line has. -/
theorem Request.ofLine?_all (line : Text) :
    Request.ofLine? Form.all line = (Form.teach.read line).or ((Form.price.read line).or
      ((Form.number.read line).or (Form.cost.read line))) := by
  unfold Request.ofLine? Form.all
  simp only [List.findSome?_cons, List.findSome?_nil]
  cases Form.teach.read line with
  | some request => rfl
  | none =>
    cases Form.price.read line with
    | some request => rfl
    | none =>
      cases Form.number.read line with
      | some request => rfl
      | none => cases Form.cost.read line <;> rfl

/-- A line that ends with a question mark asks for a number or for a cost. -/
theorem Request.ofLine?_question {s : Text} (hs : ∀ c ∈ s.head?, isBlank c = false)
    (hnil : s ≠ []) : Request.ofLine? Form.all (s ++ ['?']) =
      (Form.number.read (s ++ ['?'])).or (Form.cost.read (s ++ ['?'])) := by
  obtain ⟨hteach, hprice⟩ := Form.question_read_eq_none hs hnil
  rw [ofLine?_all, hteach, hprice, Option.none_or, Option.none_or]

/-! ## The question -/

/-- The question which number the phrase says. -/
def numberQuestion (phrase : Text) : Text := "how much is ".toList ++ (phrase ++ ['?'])

variable {ws : List Text} {p : Text}

namespace Form

open Pattern

theorem number_parts : Form.number.pattern.parts =
    letters "how".toList ++ .gap :: (letters "much".toList ++ .gap :: (letters "is".toList ++
      [.gap, .field "number".toList .words, .mark '?'])) := by
  simp [pattern]

theorem number_unambiguous : Unambiguous Form.number.pattern.parts := by
  have hphrase : Unambiguous [.field "number".toList .words, .mark '?'] :=
    Unambiguous.nil.words_mark (by decide) (by decide)
  have his := (hphrase.gap solid_words).letters "is".toList
  have hmuch := (his.gap (solid_letters (by simp) (by simp; decide))).letters "much".toList
  rw [number_parts]
  exact (hmuch.gap (solid_letters (by simp) (by simp; decide))).letters "how".toList

/-- **The question is read with just its phrase.**  The decomposition from the front of the line is
the one that is chosen, and the phrase in it ends where the mark begins. -/
theorem number_read (hp : Phrase ws p) :
    Form.number.read (numberQuestion p) = some (.number p) := by
  have hspace : Part.gap.Takes [' '] := isRun_space
  have hphrase : List.Forall₂ Part.Takes [.field "number".toList .words, .mark '?'] [p, ['?']] :=
    .cons ⟨ws, hp⟩ (.cons ⟨[], by simp, rfl⟩ .nil)
  have his := takes_letters (.cons hspace hphrase) "is".toList
  have hmuch := takes_letters (.cons hspace his) "much".toList
  have hhow := takes_letters (.cons hspace hmuch) "how".toList
  have hdec : Form.number.pattern.Decomposes (numberQuestion p) [] _ :=
    ⟨number_parts ▸ hhow, [], by unfold numberQuestion; simp⟩
  rw [read, fieldTexts?_of_decomposes Form.number.mark_not_blank number_unambiguous hdec]
  simp [pattern, letters, fieldPieces, request?, trim_phrase hp]

end Form

/-- **A question which number a phrase says asks for just that.** -/
theorem Request.ofLine?_numberQuestion (hp : Phrase ws p) :
    Request.ofLine? Form.all (numberQuestion p) = some (.number p) := by
  have hquestion : numberQuestion p = "how much is ".toList ++ p ++ ['?'] :=
    (List.append_assoc _ _ _).symm
  rw [hquestion, ofLine?_question (by simp; decide) (by simp), ← hquestion, Form.number_read hp,
    Option.some_or]

end Tradespeak
