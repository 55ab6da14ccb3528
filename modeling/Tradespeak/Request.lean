import Tradespeak.Pattern.Match

/-!
# Requests and their forms

* `Request` — what a line asks for: to learn a word or a price, to value a phrase or some units of
  an item.
* `Form` — the forms that a line may have, each with its pattern, `Form.written` as it is written and
  `Form.pattern` as it is matched.
* `Request.ofLine?` — the request of a line by the first of several forms that it has.
-/

set_option autoImplicit false

namespace Tradespeak

/-- What a line asks for. -/
inductive Request where
  /-- The word is to stand for the digit. -/
  | teach (word digit : Text)
  /-- As many units of the item as the phrase says cost this number of credits. -/
  | price (phrase item credits : Text)
  /-- The number that the phrase says. -/
  | number (phrase : Text)
  /-- The credits for as many units of the item as the phrase says. -/
  | cost (phrase item : Text)
  deriving DecidableEq, Repr

/-- The forms of lines. -/
inductive Form where
  | teach
  | price
  | number
  | cost
  deriving DecidableEq, Repr

namespace Form

/-- All forms, in the order in which they are tried. -/
def all : List Form := [.teach, .price, .number, .cost]

/-- The lines of a form as a written pattern. -/
def written : Form → Text
  | teach => "$word:word is $digit:digit".toList
  | price => "$number:words $item:item is $credits:integer credits".toList
  | number => "how much is $number:words?".toList
  | cost => "how many credits is $number:words $item:item?".toList

/-- The name of a form in the log. -/
def label : Form → Text
  | teach => "define_digit".toList
  | price => "define_price".toList
  | number => "numeral_value".toList
  | cost => "item_price".toList

open Pattern in
/-- The pattern of the lines of a form, which is what `written` writes. The definitions are whole
lines, the questions may stand anywhere in a line. -/
def pattern : Form → Pattern
  | teach =>
    ⟨.field "word".toList .word :: .gap :: letters "is".toList ++
      [.gap, .field "digit".toList .digit], true⟩
  | price =>
    ⟨.field "number".toList .words :: .gap :: .field "item".toList .item :: .gap ::
      letters "is".toList ++ .gap :: .field "credits".toList .integer :: .gap ::
      letters "credits".toList, true⟩
  | number =>
    ⟨letters "how".toList ++ .gap :: letters "much".toList ++ .gap :: letters "is".toList ++
      [.gap, .field "number".toList .words, .mark '?'], false⟩
  | cost =>
    ⟨letters "how".toList ++ .gap :: letters "many".toList ++ .gap :: letters "credits".toList ++
      .gap :: letters "is".toList ++ [.gap, .field "number".toList .words, .gap,
      .field "item".toList .item, .mark '?'], false⟩

/-- The request that the fields of a line of this form make. -/
def request? : Form → List Text → Option Request
  | teach, [word, digit] => some (.teach word digit)
  | price, [phrase, item, credits] => some (.price phrase item credits)
  | number, [phrase] => some (.number phrase)
  | cost, [phrase, item] => some (.cost phrase item)
  | _, _ => none

/-- The request of a line, if the line has this form. -/
def read (form : Form) (line : Text) : Option Request :=
  (form.pattern.fieldTexts? line).bind form.request?

end Form

namespace Request

/-- The form of the line that makes the request. -/
def form : Request → Form
  | teach _ _ => .teach
  | price _ _ _ => .price
  | number _ => .number
  | cost _ _ => .cost

/-- The texts of a request under the names of their fields. -/
def fields : Request → List (Text × Text)
  | teach word digit => [("word".toList, word), ("digit".toList, digit)]
  | price phrase item credits =>
    [("number".toList, phrase), ("item".toList, item), ("credits".toList, credits)]
  | number phrase => [("number".toList, phrase)]
  | cost phrase item => [("number".toList, phrase), ("item".toList, item)]

/-- The request of a line by the first of the forms that it has. -/
def ofLine? (forms : List Form) (line : Text) : Option Request :=
  forms.findSome? fun form => form.read line

end Request

end Tradespeak
