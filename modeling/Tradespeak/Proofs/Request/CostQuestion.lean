import Mathlib.Data.List.Lex
import Tradespeak.Proofs.Request.Question

/-!
# Questions for a cost

* `Form.CostPieces` — the pieces of a question for a cost.
* `Form.cost_pieces_unique` — two questions at the front of a line differ in nothing but where the
  item ends.
* `costQuestion` — the question what some units of an item cost.
* `Form.cost_chosen` — an item may hold question marks, and still the last one of the question is
  the one that is chosen.

Principal result: `Request.ofLine?_costQuestion` — the question is read with just its phrase and its
item, unless it is read as a question for a number.
-/

set_option autoImplicit false

namespace Tradespeak

namespace Form

open Pattern

/-- The words that a question for a cost begins with. -/
def costOpening : List Part :=
  letters "how".toList ++ .gap :: (letters "many".toList ++ .gap :: (letters "credits".toList ++
    .gap :: letters "is".toList))

theorem cost_parts : Form.cost.pattern.parts = costOpening ++ [.gap, .field "number".toList .words,
    .gap, .field "item".toList .item, .mark '?'] := by
  simp [pattern, costOpening]

theorem costOpening_unambiguous : Unambiguous costOpening := by
  have his := Unambiguous.nil.letters "is".toList
  rw [List.append_nil] at his
  have hsolid : Solid (letters "is".toList ++ []) := solid_letters (by simp) (by simp; decide)
  rw [List.append_nil] at hsolid
  have hcredits := (his.gap hsolid).letters "credits".toList
  have hmany := (hcredits.gap (solid_letters (by simp) (by simp; decide))).letters "many".toList
  exact (hmany.gap (solid_letters (by simp) (by simp; decide))).letters "how".toList

/-- The pieces of a question for a cost: the opening, a phrase, an item and the mark, with gaps
between them. -/
structure CostPieces (opening : List Text) (gap phrase gap' item mark : Text) : Prop where
  opening : List.Forall₂ Part.Takes costOpening opening
  gap : IsRun isBlank gap
  phrase : ∃ ws, Phrase ws phrase
  gap' : IsRun isBlank gap'
  item : Kind.item.Holds item
  mark : (Part.mark '?').Takes mark

theorem cost_takes_iff {ps : List Text} : List.Forall₂ Part.Takes Form.cost.pattern.parts ps ↔
    ∃ opening gap phrase gap' item mark, ps = opening ++ [gap, phrase, gap', item, mark] ∧
      CostPieces opening gap phrase gap' item mark := by
  rw [cost_parts, takes_append_iff]
  constructor
  · rintro ⟨opening, later, rfl, hopening, hlater⟩
    simp only [List.forall₂_cons_left_iff, List.forall₂_nil_left_iff] at hlater
    obtain ⟨gap, _, hgap, ⟨phrase, _, hphrase, ⟨gap', _, hgap', ⟨item, _, hitem,
      ⟨mark, _, hmark, rfl, rfl⟩, rfl⟩, rfl⟩, rfl⟩, rfl⟩ := hlater
    exact ⟨opening, gap, phrase, gap', item, mark, rfl, hopening, hgap, hphrase, hgap', hitem,
      hmark⟩
  · rintro ⟨opening, gap, phrase, gap', item, mark, rfl, h⟩
    exact ⟨opening, _, rfl, h.opening,
      .cons h.gap (.cons h.phrase (.cons h.gap' (.cons h.item (.cons h.mark .nil))))⟩

/-- **Two questions at the front of a line differ in nothing but where the item ends.** -/
theorem cost_pieces_unique {opening opening' : List Text}
    {gap phrase blanks item mark gap₁ phrase₁ blanks₁ item₁ mark₁ rest rest₁ : Text}
    (h : CostPieces opening gap phrase blanks item mark)
    (h₁ : CostPieces opening' gap₁ phrase₁ blanks₁ item₁ mark₁)
    (heq : (opening ++ [gap, phrase, blanks, item, mark]).flatten ++ rest =
      (opening' ++ [gap₁, phrase₁, blanks₁, item₁, mark₁]).flatten ++ rest₁) :
    opening = opening' ∧ gap = gap₁ ∧ phrase = phrase₁ ∧ blanks = blanks₁ ∧
      item ++ (mark ++ rest) = item₁ ++ (mark₁ ++ rest₁) := by
  obtain ⟨ws, hphrase⟩ := h.phrase
  obtain ⟨ws₁, hphrase₁⟩ := h₁.phrase
  simp only [List.flatten_append, List.flatten_cons, List.flatten_nil, List.append_nil,
    List.append_assoc] at heq
  have hopenings := costOpening_unambiguous _ _ _ _ h.opening h₁.opening heq
  subst hopenings
  obtain ⟨rfl, hrest⟩ := run_append_inj h.gap.2 h₁.gap.2
    (fun c hc => isBlank_of_isLower (phrase_append_head hphrase _ c hc))
    (fun c hc => isBlank_of_isLower (phrase_append_head hphrase₁ _ c hc))
    (List.append_cancel_left heq)
  obtain ⟨rfl, rfl, hitems⟩ := phrase_item_inj hphrase hphrase₁ h.gap'.2 h₁.gap'.2 h.item h₁.item
    hrest
  exact ⟨rfl, rfl, rfl, rfl, hitems⟩

theorem fieldPieces_append_of_no_field {front parts : List Part} {first later : List Text}
    (hfront : ∀ part ∈ front, part.fieldName? = none)
    (hfirst : List.Forall₂ Part.Takes front first) :
    fieldPieces (front ++ parts) (first ++ later) = fieldPieces parts later := by
  induction hfirst with
  | nil => rfl
  | @cons part p front first _ _ ih =>
    have hrest := ih fun part' hpart' => hfront part' (List.mem_cons_of_mem _ hpart')
    cases part with
    | field name kind => cases hfront _ List.mem_cons_self
    | letter d => exact hrest
    | gap => exact hrest
    | mark d => exact hrest

/-- What the pieces of a question report. -/
theorem cost_fieldPieces {opening : List Text} {gap phrase gap' item mark : Text}
    (h : CostPieces opening gap phrase gap' item mark) :
    fieldPieces Form.cost.pattern.parts (opening ++ [gap, phrase, gap', item, mark]) =
      [phrase, Text.trim item] := by
  have hnoField : ∀ part ∈ costOpening, part.fieldName? = none := by decide
  obtain ⟨ws, hphrase⟩ := h.phrase
  rw [cost_parts, fieldPieces_append_of_no_field hnoField h.opening]
  simp only [fieldPieces, trim_phrase hphrase]

end Form

/-! ## The question -/

/-- The question what as many units of the item as the phrase says cost. -/
def costQuestion (phrase item : Text) : Text :=
  "how many credits is ".toList ++ (phrase ++ ' ' :: (item ++ ['?']))

variable {ws : List Text} {phrase item : Text}

namespace Form

open Pattern

/-- The pieces of the opening of the question, one character each. -/
def openingPieces : List Text := "how many credits is".toList.map fun c => [c]

theorem costOpening_takes : List.Forall₂ Part.Takes costOpening openingPieces := by
  have hspace : Part.gap.Takes [' '] := isRun_space
  have his := takes_letters .nil "is".toList
  rw [List.append_nil] at his
  have hcredits := takes_letters (.cons hspace his) "credits".toList
  have hmany := takes_letters (.cons hspace hcredits) "many".toList
  exact takes_letters (.cons hspace hmany) "how".toList

theorem costQuestion_pieces (hp : Phrase ws phrase) (hitem : IsItemName item) :
    CostPieces openingPieces [' '] phrase [' '] item ['?'] :=
  ⟨costOpening_takes, isRun_space, ⟨ws, hp⟩, isRun_space, Kind.item_holds hitem, [], by simp, rfl⟩

theorem costQuestion_eq (phrase item : Text) : costQuestion phrase item =
    (openingPieces ++ [[' '], phrase, [' '], item, ['?']]).flatten := by
  have hopening : "how many credits is ".toList = openingPieces.flatten ++ [' '] := rfl
  unfold costQuestion
  simp [hopening, -String.reduceToList]

/-- **The last question mark of the question is the one that is chosen**, since with any other the
item is shorter. -/
theorem cost_chosen (hp : Phrase ws phrase) (hitem : IsItemName item) :
    Form.cost.pattern.Chooses (costQuestion phrase item) []
      (openingPieces ++ [[' '], phrase, [' '], item, ['?']]) := by
  have hpieces := costQuestion_pieces hp hitem
  refine ⟨⟨cost_takes_iff.2 ⟨_, _, _, _, _, _, rfl, hpieces⟩, [], ?_⟩, fun _ _ _ => Nat.zero_le _,
    fun ps' hdec => ?_⟩
  · rw [costQuestion_eq, List.append_nil, List.nil_append]
  obtain ⟨htakes, after, hline⟩ := hdec
  obtain ⟨opening, gap, phrase', blanks, item', mark, rfl, hpieces'⟩ := cost_takes_iff.1 htakes
  rw [costQuestion_eq, ← List.append_nil (List.flatten _)] at hline
  obtain ⟨rfl, rfl, rfl, rfl, hitems⟩ := cost_pieces_unique hpieces hpieces' hline
  obtain ⟨spaces, -, rfl⟩ := hpieces'.mark
  -- the mark takes a character at least, so that no other item is longer
  have hlength := congrArg List.length hitems
  simp only [List.length_append, List.length_cons, List.length_nil] at hlength
  by_cases hshorter : item'.length < item.length
  · right
    rw [List.map_append, List.map_append]
    exact List.Lex.append_left _ (.cons (.cons (.cons (.rel hshorter)))) _
  · left
    obtain ⟨rfl, hmarks⟩ := List.append_inj hitems (by omega)
    have hspaces : spaces = [] := List.eq_nil_of_length_eq_zero (by omega)
    rw [hspaces, List.nil_append]

theorem cost_read (hp : Phrase ws phrase) (hitem : IsItemName item) :
    Form.cost.read (costQuestion phrase item) = some (.cost phrase item) := by
  refine read_eq_some_iff.2 ⟨_, _, cost_chosen hp hitem, ?_⟩
  rw [cost_fieldPieces (costQuestion_pieces hp hitem), hitem.trimmed]
  rfl

end Form

/-- **The question is read with just its phrase and its item**, whatever the item holds, unless it
is read as a question for a number. -/
theorem Request.ofLine?_costQuestion (hp : Phrase ws phrase) (hitem : IsItemName item) :
    Request.ofLine? Form.all (costQuestion phrase item) =
      (Form.number.read (costQuestion phrase item)).or (some (.cost phrase item)) := by
  have hquestion : costQuestion phrase item =
      "how many credits is ".toList ++ (phrase ++ ' ' :: item) ++ ['?'] := by
    unfold costQuestion
    rw [List.append_assoc, List.append_assoc, List.cons_append]
  rw [hquestion, ofLine?_question (by simp; decide) (by simp), ← hquestion,
    Form.cost_read hp hitem]

end Tradespeak
