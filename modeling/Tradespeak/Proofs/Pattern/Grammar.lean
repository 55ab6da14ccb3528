import Mathlib.Data.List.Forall2
import Mathlib.Data.List.TakeWhile
import Tradespeak.Pattern.Match
import Tradespeak.Pattern.Reader
import Tradespeak.Proofs.Text.Phrase

/-!
# What a pattern means

The meaning of a pattern as relations, said without the matcher and without the reader.

* `Kind.Holds`, `Part.Takes` — the texts that a field of a kind may hold and the pieces that a part
  may take.
* `Decomposes` — a cut of the line, or of a piece of the line, into one piece for each part.
* `reported` — the names of the fields with their trimmed pieces.
* `Spells` — the parts that a written pattern says, one production for each kind of part.

Principal result: `spells_of_read` — the parts of a pattern that is read are spelled by the text,
so that none of its marks is a blank (`Spells.mark_not_blank`).
-/

set_option autoImplicit false

namespace Tradespeak

namespace Pattern

/-- The texts that a field of a kind may hold. -/
def Kind.Holds : Kind → Text → Prop
  | word, s => IsRun isLower s
  | words, s => ∃ ws, Phrase ws s
  | digit, s => ∃ c, isRomanDigit c = true ∧ s = [c]
  | item, s => ∃ c rest, isUpper c = true ∧ '\n' ∉ rest ∧ s = c :: rest
  | integer, s => IsRun isDecimalDigit s

/-- The pieces of a line that a part may take. -/
def Part.Takes : Part → Text → Prop
  | letter d, s => ∃ c, sameLetter d c = true ∧ s = [c]
  | gap, s => IsRun isBlank s
  | mark d, s => ∃ blanks, (∀ c ∈ blanks, isBlank c = true) ∧ s = blanks ++ [d]
  | field _ kind, s => kind.Holds s

/-- The names of the fields with their trimmed pieces, in the order of the parts. -/
def reported (parts : List Part) (pieces : List Text) : List (Text × Text) :=
  (parts.zip pieces).filterMap fun cut => cut.1.fieldName?.map (·, Text.trim cut.2)

end Pattern

/-- **A decomposition of a line**: what comes before, and one piece for each part of the pattern in
order.  An anchored pattern decomposes the whole trimmed line, any other a piece of the line. -/
def Pattern.Decomposes (pattern : Pattern) (line before : Text) (pieces : List Text) : Prop :=
  List.Forall₂ Pattern.Part.Takes pattern.parts pieces ∧
    if pattern.anchored then before = [] ∧ pieces.flatten = Text.trim line
    else ∃ after, line = before ++ (pieces.flatten ++ after)

namespace Pattern

/-! ## Written patterns -/

/-- The names that a field may be written with. -/
def IsFieldName (name : Text) : Prop :=
  ∃ c rest, isIdentifierStart c = true ∧ (∀ d ∈ rest, isWordChar d = true) ∧ name = c :: rest

/-- The parts that a text spells.  A gap is a whole run of blanks, and the name of a kind ends
where the lower-case letters end. -/
inductive Spells : List Part → Text → Prop
  | nil : Spells [] []
  | letter {c : Char} {parts : List Part} {s : Text} (hdollar : c ≠ '$')
      (hblank : isBlank c = false) (hmark : isMark c = false) (hs : Spells parts s) :
      Spells (.letter c :: parts) (c :: s)
  | gap {blanks s : Text} {parts : List Part} (hblanks : IsRun isBlank blanks)
      (hend : ∀ c ∈ s.head?, isBlank c = false) (hs : Spells parts s) :
      Spells (.gap :: parts) (blanks ++ s)
  | mark {c : Char} {parts : List Part} {s : Text} (hmark : isMark c = true)
      (hs : Spells parts s) : Spells (.mark c :: parts) (c :: s)
  | field {name s : Text} {kind : Kind} {parts : List Part} (hname : IsFieldName name)
      (hend : ∀ c ∈ s.head?, isLower c = false) (hs : Spells parts s) :
      Spells (.field name kind :: parts) ('$' :: (name ++ ':' :: (kind.name ++ s)))

theorem isBlank_of_isMark {c : Char} (h : isMark c = true) : isBlank c = false := by
  simp only [isMark, Bool.or_eq_true, beq_iff_eq] at h
  rcases h with ((rfl | rfl) | rfl) | rfl <;> decide

theorem Spells.mark_not_blank {parts : List Part} {s : Text} (h : Spells parts s) {c : Char}
    (hc : .mark c ∈ parts) : isBlank c = false := by
  induction h with
  | nil => cases hc
  | letter _ _ _ _ ih => exact ih (by simpa using hc)
  | gap _ _ _ ih => exact ih (by simpa using hc)
  | mark hmark _ ih =>
    rcases List.mem_cons.1 hc with h | h
    · cases h; exact isBlank_of_isMark hmark
    · exact ih h
  | field _ _ _ ih => exact ih (by simpa using hc)

theorem head_dropWhile {p : Char → Bool} {s : Text} : ∀ c ∈ (s.dropWhile p).head?, p c = false := by
  intro c hc
  have := List.head?_dropWhile_not p s
  rw [Option.mem_def.1 hc] at this
  simpa using this

theorem kind_name_of_ofName? {name : Text} {kind : Kind} (h : Kind.ofName? name = some kind) :
    kind.name = name := by
  simpa using List.find?_some h

/-- What is cut off after a `$` is a name, a colon and a whole run of lower-case letters. -/
theorem cutField_spec {s name kind rest : Text} (h : cutField s = some (name, kind, rest)) :
    IsFieldName name ∧ IsRun isLower kind ∧ s = name ++ ':' :: (kind ++ rest) ∧
      ∀ c ∈ rest.head?, isLower c = false := by
  unfold cutField at h
  split at h
  · cases h
  rename_i c body
  split at h
  · rename_i hstart
    split at h
    · rename_i tail hcolon
      split at h
      · cases h
      · rename_i hne
        cases h
        refine ⟨⟨c, _, hstart, fun d hd => List.mem_takeWhile_imp hd, rfl⟩,
          ⟨hne, fun d hd => List.mem_takeWhile_imp hd⟩, ?_, head_dropWhile⟩
        rw [List.takeWhile_append_dropWhile, List.cons_append, ← hcolon,
          List.takeWhile_append_dropWhile]
    · cases h
  · cases h

theorem map_eq_ok {ε α β : Type} {f : α → β} {result : Except ε α} {b : β}
    (h : result.map f = .ok b) : ∃ a, result = .ok a ∧ f a = b := by
  cases result with
  | error e => cases h
  | ok a => cases h; exact ⟨a, rfl, rfl⟩

/-- **The parts that are read from tokens are spelled by the text of the tokens.** -/
theorem spells_of_partsAfter {position : Nat} {s : Text} {seen : List Text} {parts : List Part}
    (h : partsAfter seen (tokensFrom position s) = .ok parts) : Spells parts s := by
  fun_induction tokensFrom position s generalizing seen parts with
  | case1 => cases h; exact .nil
  | case2 position rest hcut => cases h
  | case3 position rest name kindName tail hcut _ ih =>
    obtain ⟨hname, -, rfl, hend⟩ := cutField_spec hcut
    rw [partsAfter] at h
    split at h
    · cases h
    rename_i kind hkind
    split at h
    · cases h
    obtain ⟨later, hlater, rfl⟩ := map_eq_ok h
    rw [← kind_name_of_ofName? hkind]
    exact .field hname hend (ih hlater)
  | case4 position c rest _ hblank _ ih =>
    rw [partsAfter] at h
    obtain ⟨later, hlater, rfl⟩ := map_eq_ok h
    have hrun : IsRun isBlank (c :: rest.takeWhile isBlank) := by
      refine ⟨by simp, fun d hd => ?_⟩
      rcases List.mem_cons.1 hd with rfl | hd
      · exact hblank
      · exact List.mem_takeWhile_imp hd
    have hgap := Spells.gap hrun head_dropWhile (ih hlater)
    rwa [List.cons_append, List.takeWhile_append_dropWhile] at hgap
  | case5 position c rest _ _ hmark ih =>
    rw [partsAfter] at h
    obtain ⟨later, hlater, rfl⟩ := map_eq_ok h
    exact .mark hmark (ih hlater)
  | case6 position c rest hdollar hblank hmark ih =>
    rw [partsAfter] at h
    obtain ⟨later, hlater, rfl⟩ := map_eq_ok h
    exact .letter hdollar (by simpa using hblank) (by simpa using hmark) (ih hlater)

/-- **A pattern that is read is the one that the text spells.** -/
theorem spells_of_read {anchored : Bool} {s : Text} {pattern : Pattern}
    (h : Pattern.read anchored s = .ok pattern) :
    pattern.anchored = anchored ∧ Spells pattern.parts s := by
  unfold Pattern.read at h
  split at h
  · cases h
  · rename_i parts hparts
    split at h
    · cases h
    · cases h
      exact ⟨rfl, spells_of_partsAfter hparts⟩

end Pattern

end Tradespeak
