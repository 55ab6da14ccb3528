import Tradespeak.Pattern.Basic
import Tradespeak.Text.Quoted
import Tradespeak.Text.WordChar

/-!
# Written patterns

A field is written `$name:kind`, a gap as any run of blanks, and every other character as itself.

* `tokens` — what a written pattern consists of, up to the first `$` that begins no field.
* `Pattern.Fault` — why a written pattern is none, with its message.
* `Pattern.read` — the pattern that a text writes. The leftmost fault counts; names are looked at
  for being identifiers only in a pattern that has no other fault.
-/

set_option autoImplicit false

namespace Tradespeak

namespace Pattern

/-- A token of a written pattern. -/
inductive Token where
  | letter (c : Char)
  | gap
  | mark (c : Char)
  /-- A field with its name and the name of its kind. -/
  | field (name kind : Text)
  /-- A `$` at this position that begins no field. -/
  | stray (position : Nat)
  deriving DecidableEq, Repr

/-- The name and the name of the kind of the field after a `$`, and the text after the field. -/
def cutField : Text → Option (Text × Text × Text)
  | [] => none
  | c :: rest =>
    if isIdentifierStart c then
      match rest.dropWhile isWordChar with
      | ':' :: tail =>
        if tail.takeWhile isLower = [] then none
        else some (c :: rest.takeWhile isWordChar, tail.takeWhile isLower, tail.dropWhile isLower)
      | _ => none
    else none

theorem cutField_length {s name kind rest : Text} (h : cutField s = some (name, kind, rest)) :
    rest.length < s.length := by
  unfold cutField at h
  split at h
  · cases h
  · split at h
    · split at h
      · rename_i body _ _ tail shape
        split at h
        · cases h
        · simp only [Option.some.injEq, Prod.mk.injEq] at h
          obtain ⟨-, -, rfl⟩ := h
          have := (List.dropWhile_suffix (l := body) isWordChar).length_le
          rw [shape] at this
          have := (List.dropWhile_suffix (l := tail) isLower).length_le
          simp only [List.length_cons] at *
          omega
      · cases h
    · cases h

/-- The tokens of a text that begins at the position, up to a stray `$`. -/
def tokensFrom (position : Nat) (s : Text) : List Token :=
  match s with
  | [] => []
  | c :: rest =>
    if c = '$' then
      match h : cutField rest with
      | none => [.stray position]
      | some (name, kind, tail) =>
        have := cutField_length h
        .field name kind :: tokensFrom (position + name.length + kind.length + 2) tail
    else if isBlank c then
      have := (List.dropWhile_suffix (l := rest) isBlank).length_le
      .gap :: tokensFrom (position + 1 + (rest.takeWhile isBlank).length) (rest.dropWhile isBlank)
    else if isMark c then .mark c :: tokensFrom (position + 1) rest
    else .letter c :: tokensFrom (position + 1) rest
termination_by s.length

/-- The tokens of a written pattern. -/
def tokens (s : Text) : List Token := tokensFrom 0 s

/-- Why a text writes no pattern. -/
inductive Fault where
  /-- The `$` at this position begins no field. -/
  | badField (position : Nat)
  /-- There is no kind of this name. -/
  | unknownKind (kind : Text)
  /-- An earlier field has this name. -/
  | duplicateField (name : Text)
  /-- The name is no identifier. The position is that of the name in the regular expression. -/
  | badName (name : Text) (position : Nat)
  deriving DecidableEq, Repr

/-- The fault of a written pattern in words. -/
def Fault.message (written : Text) : Fault → Text
  | badField position =>
    "Bad field at position ".toList ++ Text.ofNat position ++ " in ".toList ++ written.quoted
  | unknownKind kind =>
    "Unknown field kind ".toList ++ kind.quoted ++ " in ".toList ++ written.quoted
  | duplicateField name =>
    "Duplicate field ".toList ++ name.quoted ++ " in ".toList ++ written.quoted
  | badName name position =>
    "bad character in group name ".toList ++ name.quoted ++ " at position ".toList
      ++ Text.ofNat position

/-- The parts that the tokens write after fields of the given names. -/
def partsAfter (seen : List Text) : List Token → Except Fault (List Part)
  | [] => .ok []
  | .letter c :: rest => (partsAfter seen rest).map (.letter c :: ·)
  | .gap :: rest => (partsAfter seen rest).map (.gap :: ·)
  | .mark c :: rest => (partsAfter seen rest).map (.mark c :: ·)
  | .stray position :: _ => .error (.badField position)
  | .field name kindName :: rest =>
    match Kind.ofName? kindName with
    | none => .error (.unknownKind kindName)
    | some kind =>
      if name ∈ seen then .error (.duplicateField name)
      else (partsAfter (name :: seen) rest).map (.field name kind :: ·)

/-! ## The regular expression of a pattern -/

/-- The characters that stand for themselves in a regular expression only after a backslash. -/
def isSpecial (c : Char) : Bool := "()[]\x7b\x7d?*+-|^$\\.&~# \t\n\r\x0b\x0c".toList.contains c

/-- The regular expression of a kind. -/
def Kind.expression : Kind → Text
  | word => "[a-z]+".toList
  | words => "[a-z]+(?:\\s+[a-z]+)*".toList
  | digit => "[IVXLCDM]".toList
  | item => "[A-Z].*".toList
  | integer => "\\d+".toList

/-- A character in a regular expression that matches it. -/
def escaped (c : Char) : Text := if isSpecial c then ['\\', c] else [c]

/-- How many characters of the regular expression come before the name of the first field that is
no identifier, given how many come before the parts; with that name. Letters in a row share one
group that disregards case. -/
def badNameFrom (position : Nat) (afterLetter : Bool) : List Part → Option (Text × Nat)
  | [] => none
  | .letter c :: rest =>
    badNameFrom (position + (if afterLetter then 0 else "(?i:)".length) + (escaped c).length) true
      rest
  | .gap :: rest => badNameFrom (position + "\\s+".length) false rest
  | .mark c :: rest => badNameFrom (position + "\\s*".length + (escaped c).length) false rest
  | .field name kind :: rest =>
    if isIdentifier name then
      badNameFrom (position + "(?P<>)".length + name.length + kind.expression.length) false rest
    else some (name, position + "(?P<".length)

/-- The pattern that a text writes. -/
def read (anchored : Bool) (s : Text) : Except Fault Pattern :=
  match partsAfter [] (tokens s) with
  | .error fault => .error fault
  | .ok parts =>
    match badNameFrom (if anchored then "^".length else 0) false parts with
    | some (name, position) => .error (.badName name position)
    | none => .ok ⟨parts, anchored⟩

end Pattern

end Tradespeak
