import Tradespeak.Text.Basic

/-!
# Blanks, and the words between them

* `isBlank` — the characters that Unicode counts as white space, by bidirectional class or by
  category, which includes the four separators from U+001C on and the no-break space.
* `Text.trim` — a text without the blanks at its two ends.
* `Text.words` — the maximal runs of characters that are no blanks.
-/

set_option autoImplicit false

namespace Tradespeak

/-- The code points of the blanks. -/
def blankRanges : List (Nat × Nat) :=
  [(0x0009, 0x000d), (0x001c, 0x0020), (0x0085, 0x0085), (0x00a0, 0x00a0), (0x1680, 0x1680),
    (0x2000, 0x200a), (0x2028, 0x2029), (0x202f, 0x202f), (0x205f, 0x205f), (0x3000, 0x3000)]

/-- The character separates words. -/
def isBlank (c : Char) : Bool := covers blankRanges c

namespace Text

/-- The text from its first character that is no blank. -/
def trimStart (s : Text) : Text := s.dropWhile isBlank

/-- The text up to its last character that is no blank. -/
def trimEnd (s : Text) : Text := (trimStart s.reverse).reverse

/-- The text without the blanks at its two ends. -/
def trim (s : Text) : Text := trimEnd (trimStart s)

/-- The word that the text begins with, empty if it begins with a blank, and the later words. -/
def cutWords : Text → Text × List Text
  | [] => ([], [])
  | c :: rest =>
    let (word, later) := cutWords rest
    if isBlank c then ([], if word = [] then later else word :: later)
    else (c :: word, later)

/-- The maximal runs of characters that are no blanks, in order. -/
def words (s : Text) : List Text :=
  let (word, later) := cutWords s
  if word = [] then later else word :: later

end Text

end Tradespeak
