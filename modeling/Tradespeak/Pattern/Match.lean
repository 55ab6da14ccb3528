import Tradespeak.Pattern.Basic
import Tradespeak.Text.DecimalDigit
import Tradespeak.Text.LetterCase

/-!
# How a pattern fits a line

* `Part.cuts` — the pieces that a part can take from the front of a text, the longest first.
* `fit` — a choice of one piece for each part in order, so that what is left is acceptable. The
  first part is as long as it can be, and so on: the lengths are the greatest in the
  lexicographic order.
* `Pattern.fieldTexts?` — the trimmed texts of the fields where the pattern first fits the line.
-/

set_option autoImplicit false

namespace Tradespeak

namespace Pattern

/-- A piece at the front of a text: its length, and what follows it. -/
abbrev Cut := Nat × Text

/-- The runs of characters of a class at the front of a text that comes after `length` characters,
the shortest first. -/
def runCuts (inClass : Char → Bool) (length : Nat) : Text → List Cut
  | [] => []
  | c :: rest =>
    if inClass c then (length + 1, rest) :: runCuts inClass (length + 1) rest else []

/-- As `runCuts`, for runs of lower-case letters and blanks that end with a letter. -/
def phraseCuts (length : Nat) : Text → List Cut
  | [] => []
  | c :: rest =>
    if isLower c then (length + 1, rest) :: phraseCuts (length + 1) rest
    else if isBlank c then phraseCuts (length + 1) rest
    else []

/-- The character is one of the seven Roman digits. -/
def isRomanDigit (c : Char) : Bool :=
  c == 'I' || c == 'V' || c == 'X' || c == 'L' || c == 'C' || c == 'D' || c == 'M'

/-- The pieces of a kind at the front of a text, the longest first. -/
def Kind.cuts : Kind → Text → List Cut
  | word, s => (runCuts isLower 0 s).reverse
  | words, c :: rest => if isLower c then (phraseCuts 0 (c :: rest)).reverse else []
  | digit, c :: rest => if isRomanDigit c then [(1, rest)] else []
  | item, c :: rest =>
    if isUpper c then (runCuts (fun d => decide (d ≠ '\n')) 1 rest).reverse ++ [(1, rest)] else []
  | integer, s => (runCuts isDecimalDigit 0 s).reverse
  | _, [] => []

/-- The pieces that a part can take from the front of a text, the longest first. -/
def Part.cuts : Part → Text → List Cut
  | letter _, [] => []
  | letter d, c :: rest => if sameLetter d c then [(1, rest)] else []
  | gap, s => (runCuts isBlank 0 s).reverse
  | mark d, s =>
    match Text.trimStart s with
    | [] => []
    | c :: rest => if c = d then [((s.takeWhile isBlank).length + 1, rest)] else []
  | field _ kind, s => kind.cuts s

/-- The lengths of the pieces, one for each part, that the parts take from the front of a text, each
as long as the later parts and the condition on the remaining text allow. -/
def fit (acceptable : Text → Bool) : List Part → Text → Option (List Nat)
  | [], s => if acceptable s then some [] else none
  | part :: parts, s =>
    (part.cuts s).findSome? fun cut => (fit acceptable parts cut.2).map (cut.1 :: ·)

/-- The first place in a text where the parts fit: the text from there on, and the lengths. -/
def firstFit (parts : List Part) : Text → Option (Text × List Nat)
  | [] => (fit (fun _ => true) parts []).map ([], ·)
  | c :: rest =>
    match fit (fun _ => true) parts (c :: rest) with
    | some lengths => some (c :: rest, lengths)
    | none => firstFit parts rest

/-- The pieces of the given lengths at the front of a text, one after another. -/
def pieces : List Nat → Text → List Text
  | [], _ => []
  | length :: lengths, s => s.take length :: pieces lengths (s.drop length)

/-- The trimmed pieces of those parts that are fields. -/
def fieldPieces : List Part → List Text → List Text
  | .field _ _ :: parts, piece :: later => Text.trim piece :: fieldPieces parts later
  | _ :: parts, _ :: later => fieldPieces parts later
  | _, _ => []

/-- Where the pattern fits the line: the text from there on, and the lengths of the pieces. -/
def fit? (pattern : Pattern) (line : Text) : Option (Text × List Nat) :=
  if pattern.anchored then
    (fit (fun s => s.isEmpty) pattern.parts (Text.trim line)).map (Text.trim line, ·)
  else firstFit pattern.parts line

/-- The trimmed texts of the fields, in order, where the pattern fits the line. -/
def fieldTexts? (pattern : Pattern) (line : Text) : Option (List Text) :=
  (pattern.fit? line).map fun found => fieldPieces pattern.parts (pieces found.2 found.1)

/-- The names of the fields with their texts, in order, where the pattern fits the line. -/
def match? (pattern : Pattern) (line : Text) : Option (List (Text × Text)) :=
  (pattern.fieldTexts? line).map fun texts => pattern.fieldNames.zip texts

end Pattern

end Tradespeak
