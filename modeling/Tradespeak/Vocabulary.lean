import Tradespeak.Numeral
import Tradespeak.Table
import Tradespeak.Text.Blank

/-!
# The vocabulary of the dialect

* `Digit` — what a word stands for. A word may also be known and stand for nothing yet.
* `Vocabulary` — the words in the order in which they became known, each with its digit.
* `numeralOf` — a phrase to the numeral that its words spell. The first word without a digit is
  refused before the digits are looked at.
-/

set_option autoImplicit false

namespace Tradespeak

/-- The digits that a word stands for, if any. -/
abbrev Digit := Option Text

/-- The known words, each with its digit. -/
abbrev Vocabulary := Table Digit

namespace Vocabulary

/-- The digits of the words, in the order of the words. -/
def digits (vocabulary : Vocabulary) : List Digit := vocabulary.entries.map Prod.snd

/-- The digit text that the word stands for. -/
def digitOf? (vocabulary : Vocabulary) (word : Text) : Digit := (vocabulary.get? word).join

/-- The digits of the words put together, refused at the first word without a digit. -/
def spell (vocabulary : Vocabulary) : List Text → Except Refusal Text
  | [] => .ok []
  | word :: rest =>
    match vocabulary.digitOf? word with
    | none => .error (.unknownWord word)
    | some digit =>
      match spell vocabulary rest with
      | .error refusal => .error refusal
      | .ok digits => .ok (digit ++ digits)

/-- The numeral that the words of the phrase spell. -/
def numeralOf (vocabulary : Vocabulary) (phrase : Text) : Except Refusal Numeral :=
  match vocabulary.spell (Text.words phrase) with
  | .error refusal => .error refusal
  | .ok digits => Numeral.read digits

end Vocabulary

end Tradespeak
