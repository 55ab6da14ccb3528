import Tradespeak.Proofs.Pattern.Greedy
import Tradespeak.Proofs.Text.Trim

/-!
# What the fields of a request hold

* `fieldPieces_hold` — the trimmed pieces of the fields of a pattern are, kind by kind, what the
  kinds may hold.
* `read_spec` — a line that is read as a form has the fields of that form.
* `ofLine?_spec` — so has a line that is read by the first of several forms.
* `infix_of_mem_fields` — every field stands in the line.

Principal results: `teach_fields` — a line that teaches a word names a run of lower-case letters and
a single Roman digit; `price_fields` — the item of a line that prices one has the name of an item.
-/

set_option autoImplicit false

namespace Tradespeak

namespace Pattern

/-- The kind of the field that the part is, if it is one. -/
def Part.fieldKind? : Part → Option Kind
  | .field _ kind => some kind
  | _ => none

/-- The text is what a field of the kind may hold, trimmed. -/
def Kind.HoldsTrimmed (kind : Kind) (s : Text) : Prop := ∃ p, kind.Holds p ∧ s = Text.trim p

theorem fieldPieces_hold {parts : List Part} {ps : List Text}
    (h : List.Forall₂ Part.Takes parts ps) :
    List.Forall₂ Kind.HoldsTrimmed (parts.filterMap (·.fieldKind?)) (fieldPieces parts ps) := by
  induction h with
  | nil => exact .nil
  | @cons part p parts ps hp _ ih =>
    cases part with
    | letter d => exact ih
    | gap => exact ih
    | mark d => exact ih
    | field name kind => exact .cons ⟨p, hp, rfl⟩ ih

/-- A trimmed piece of a field stands in the pieces put together. -/
theorem infix_of_mem_fieldPieces {parts : List Part} {ps : List Text} {s : Text}
    (h : List.Forall₂ Part.Takes parts ps) (hs : s ∈ fieldPieces parts ps) : s <:+: ps.flatten := by
  induction h with
  | nil => cases hs
  | @cons part p parts ps hp _ ih =>
    rw [List.flatten_cons]
    cases part with
    | letter d => exact List.infix_append_of_infix_right (ih hs)
    | gap => exact List.infix_append_of_infix_right (ih hs)
    | mark d => exact List.infix_append_of_infix_right (ih hs)
    | field name kind =>
      rcases List.mem_cons.1 hs with rfl | hs
      · exact List.infix_append_of_infix_left (Text.infix_trim p)
      · exact List.infix_append_of_infix_right (ih hs)

/-- The pieces stand in the line that they are cut from. -/
theorem infix_of_decomposes {pattern : Pattern} {line before : Text} {ps : List Text}
    (h : pattern.Decomposes line before ps) : ps.flatten <:+: line := by
  obtain ⟨-, hline⟩ := h
  split at hline
  · rw [hline.2]
    exact Text.infix_trim line
  · obtain ⟨after, rfl⟩ := hline
    exact ⟨before, after, List.append_assoc ..⟩

theorem Kind.holdsTrimmed_word {s : Text} (h : Kind.word.HoldsTrimmed s) : IsRun isLower s := by
  obtain ⟨p, hp, rfl⟩ := h
  rw [trim_phrase (.word hp)]
  exact hp

theorem Kind.holdsTrimmed_digit {s : Text} (h : Kind.digit.HoldsTrimmed s) :
    ∃ c, isRomanDigit c = true ∧ s = [c] := by
  obtain ⟨p, ⟨c, hc, rfl⟩, rfl⟩ := h
  have hblank : isBlank c = false := by
    simp only [isRomanDigit, Bool.or_eq_true, beq_iff_eq] at hc
    rcases hc with (((((rfl | rfl) | rfl) | rfl) | rfl) | rfl) | rfl <;> decide
  exact ⟨c, hc, Text.trim_eq_self (by simpa using hblank) (by simpa using hblank)⟩

theorem Kind.item_holds {s : Text} (h : IsItemName s) : Kind.item.Holds s := by
  obtain ⟨⟨c, rest, hc, rfl⟩, honeLine, -⟩ := h
  exact ⟨c, rest, hc, fun hbreak => honeLine (List.mem_cons_of_mem _ hbreak), rfl⟩

theorem Kind.holdsTrimmed_item {s : Text} (h : Kind.item.HoldsTrimmed s) : IsItemName s := by
  obtain ⟨p, ⟨c, rest, hc, hrest, rfl⟩, rfl⟩ := h
  exact isItemName_trim hc hrest

end Pattern

namespace Form

/-- The kinds of the fields of a form. -/
def kinds (form : Form) : List Pattern.Kind := form.pattern.parts.filterMap (·.fieldKind?)

theorem mark_not_blank (form : Form) : ∀ d, .mark d ∈ form.pattern.parts → isBlank d = false := by
  intro d hd
  have hquestion : d = '?' := by
    cases form <;> simp [pattern, Pattern.letters] at hd <;> exact hd
  subst hquestion
  decide

theorem request?_eq_some {form : Form} {texts : List Text} {request : Request}
    (h : form.request? texts = some request) :
    request.form = form ∧ request.fields.map Prod.snd = texts := by
  unfold request? at h
  split at h <;> cases h <;> exact ⟨rfl, rfl⟩

/-- A line is read by the decomposition that is chosen. -/
theorem read_eq_some_iff {form : Form} {line : Text} {request : Request} :
    form.read line = some request ↔ ∃ before ps, form.pattern.Chooses line before ps ∧
      form.request? (Pattern.fieldPieces form.pattern.parts ps) = some request := by
  rw [read, Option.bind_eq_some_iff]
  constructor
  · rintro ⟨texts, htexts, hrequest⟩
    obtain ⟨before, ps, hchosen, rfl⟩ :=
      (Pattern.fieldTexts?_eq_some_iff form.mark_not_blank).1 htexts
    exact ⟨before, ps, hchosen, hrequest⟩
  · rintro ⟨before, ps, hchosen, hrequest⟩
    exact ⟨_, (Pattern.fieldTexts?_eq_some_iff form.mark_not_blank).2 ⟨before, ps, hchosen, rfl⟩,
      hrequest⟩

/-- **A line that is read as a form has the fields of that form.** -/
theorem read_spec {form : Form} {line : Text} {request : Request}
    (h : form.read line = some request) :
    request.form = form ∧
      List.Forall₂ Pattern.Kind.HoldsTrimmed form.kinds (request.fields.map Prod.snd) := by
  obtain ⟨before, ps, hchosen, hrequest⟩ := read_eq_some_iff.1 h
  obtain ⟨hform, hfields⟩ := request?_eq_some hrequest
  rw [hfields]
  exact ⟨hform, Pattern.fieldPieces_hold hchosen.decomposes.1⟩

/-- The fields of a line stand in the line. -/
theorem infix_of_read {form : Form} {line : Text} {request : Request}
    (h : form.read line = some request) : ∀ field ∈ request.fields, field.2 <:+: line := by
  intro field hfield
  obtain ⟨before, ps, hchosen, hrequest⟩ := read_eq_some_iff.1 h
  obtain ⟨-, hfields⟩ := request?_eq_some hrequest
  have hmem := List.mem_map_of_mem (f := Prod.snd) hfield
  rw [hfields] at hmem
  exact (Pattern.infix_of_mem_fieldPieces hchosen.decomposes.1 hmem).trans
    (Pattern.infix_of_decomposes hchosen.decomposes)

end Form

namespace Request

variable {forms : List Form} {line : Text} {request : Request}

theorem ofLine?_spec (h : ofLine? forms line = some request) :
    request.form ∈ forms ∧ List.Forall₂ Pattern.Kind.HoldsTrimmed request.form.kinds
      (request.fields.map Prod.snd) := by
  obtain ⟨form, hform, hread⟩ := List.exists_of_findSome?_eq_some h
  obtain ⟨rfl, hfields⟩ := Form.read_spec hread
  exact ⟨hform, hfields⟩

/-- **The fields of a request stand in the line that makes it.** -/
theorem infix_of_mem_fields (h : ofLine? forms line = some request) :
    ∀ field ∈ request.fields, field.2 <:+: line := by
  obtain ⟨form, -, hread⟩ := List.exists_of_findSome?_eq_some h
  exact Form.infix_of_read hread

/-- The fields of a request are not longer than the line that makes it. -/
theorem field_length_le (h : ofLine? forms line = some request) :
    ∀ field ∈ request.fields, field.2.length ≤ line.length :=
  fun field hfield => (infix_of_mem_fields h field hfield).length_le

/-- **A word that is taught is a run of lower-case letters, and its digit a Roman digit.** -/
theorem teach_fields {word digit : Text} (h : ofLine? forms line = some (.teach word digit)) :
    IsRun isLower word ∧ ∃ c, Pattern.isRomanDigit c = true ∧ digit = [c] := by
  obtain ⟨-, hfields⟩ := ofLine?_spec h
  change List.Forall₂ Pattern.Kind.HoldsTrimmed [.word, .digit] [word, digit] at hfields
  cases hfields with
  | cons hword hrest =>
    cases hrest with
    | cons hdigit _ =>
      exact ⟨Pattern.Kind.holdsTrimmed_word hword, Pattern.Kind.holdsTrimmed_digit hdigit⟩

/-- **An item that is priced has the name of an item.** -/
theorem price_fields {phrase item credits : Text}
    (h : ofLine? forms line = some (.price phrase item credits)) : IsItemName item := by
  obtain ⟨-, hfields⟩ := ofLine?_spec h
  change List.Forall₂ Pattern.Kind.HoldsTrimmed [.words, .item, .integer]
    [phrase, item, credits] at hfields
  cases hfields with
  | cons _ hrest =>
    cases hrest with
    | cons hitem _ => exact Pattern.Kind.holdsTrimmed_item hitem

end Request

end Tradespeak
