import Tradespeak.Text.Blank

/-!
# Patterns of lines

* `Pattern.Kind` — what a field of a line may hold.
* `Pattern.Part` — a letter in either case, a gap of blanks, a punctuation mark or a field.
* `Pattern` — parts in order, and whether they have to make up the whole line.
-/

set_option autoImplicit false

namespace Tradespeak

namespace Pattern

/-- What a field may hold. -/
inductive Kind where
  /-- A run of lower-case letters. -/
  | word
  /-- Runs of lower-case letters with blanks between them. -/
  | words
  /-- A single Roman digit. -/
  | digit
  /-- An upper-case letter and anything after it on the line. -/
  | item
  /-- A run of decimal digits of any script. -/
  | integer
  deriving DecidableEq, Repr

/-- The name of a kind in a written pattern. -/
def Kind.name : Kind → Text
  | word => "word".toList
  | words => "words".toList
  | digit => "digit".toList
  | item => "item".toList
  | integer => "integer".toList

/-- All kinds. -/
def Kind.all : List Kind := [.word, .words, .digit, .item, .integer]

/-- The kind of that name. -/
def Kind.ofName? (name : Text) : Option Kind := Kind.all.find? fun kind => kind.name == name

/-- A part of a pattern, matched by a piece of the line. -/
inductive Part where
  /-- One character, in any of its cases. -/
  | letter (c : Char)
  /-- One or more blanks. -/
  | gap
  /-- A punctuation mark, blanks allowed before it. -/
  | mark (c : Char)
  /-- A text of the kind, to be reported under the name. -/
  | field (name : Text) (kind : Kind)
  deriving DecidableEq, Repr

/-- The letters of a word, one part each. -/
def letters (word : Text) : List Part := word.map .letter

/-- The punctuation marks of a written pattern. -/
def isMark (c : Char) : Bool := c == '?' || c == '!' || c == '.' || c == ','

/-- The name of the field that the part is, if it is one. -/
def Part.fieldName? : Part → Option Text
  | field name _ => some name
  | _ => none

end Pattern

/-- A pattern of a line. One that is anchored describes a whole line, blanks at its two ends
aside; one that is not describes a piece of it. -/
structure Pattern where
  parts : List Pattern.Part
  anchored : Bool
  deriving DecidableEq, Repr

/-- The names of the fields, in order. -/
def Pattern.fieldNames (pattern : Pattern) : List Text := pattern.parts.filterMap (·.fieldName?)

end Tradespeak
