import Tradespeak.Decimal.Arithmetic
import Tradespeak.Decimal.Printer
import Tradespeak.Decimal.Reader
import Tradespeak.Request
import Tradespeak.Vocabulary

/-!
# The market

* `Market` — what is known at a moment: the vocabulary, the digits that are taken, the prices.
* `Outcome` — what becomes of a line: something is learned, a reply is given, the line is refused,
  or its arithmetic has no result.
* `Market.ask` — the outcome of a line and the market after it.
-/

set_option autoImplicit false

namespace Tradespeak

/-- Unit prices by item. -/
abbrev PriceList := Table Decimal

/-- What is known at a moment. The taken digits are kept apart from the vocabulary: they are those
of the vocabulary at the opening and of the words taught since. -/
structure Market where
  vocabulary : Vocabulary
  taken : List Digit
  prices : PriceList
  deriving DecidableEq

/-- What becomes of a line. -/
inductive Outcome where
  | learned
  | replied (reply : Text)
  | refused (refusal : Refusal)
  | failed (fault : Decimal.Fault)
  deriving DecidableEq, Repr

/-- The digits of the words, each once. -/
def Vocabulary.assignedDigits (vocabulary : Vocabulary) : List Digit := vocabulary.digits.eraseDups

namespace Market

/-- The market over a vocabulary and prices, all digits of the vocabulary being taken. -/
def opening (vocabulary : Vocabulary) (prices : PriceList) : Market :=
  ⟨vocabulary, vocabulary.assignedDigits, prices⟩

/-- The market where nothing is known. -/
def empty : Market := opening Table.empty Table.empty

/-- The market over the same vocabulary and prices, the taken digits found anew. -/
def reopened (market : Market) : Market := opening market.vocabulary market.prices

/-- The credits without trailing zeros and without an exponent. -/
def creditsText (credits : Decimal) : Text := credits.reduce.plain

/-- A word is taught its digit if neither the word is known nor the digit taken. -/
def teach (market : Market) (word digit : Text) : Outcome × Market :=
  if market.vocabulary.contains word then (.refused (.knownWord word), market)
  else if some digit ∈ market.taken then (.refused (.takenDigit digit), market)
  else
    (.learned, { market with
      vocabulary := market.vocabulary.insert word (some digit)
      taken := market.taken ++ [some digit] })

/-- An item gets its unit price, the credits divided by the number of units, if it has none. -/
def setPrice (market : Market) (line phrase item credits : Text) : Outcome × Market :=
  match market.vocabulary.numeralOf phrase with
  | .error refusal => (.refused refusal, market)
  | .ok numeral =>
    if numeral.value = 0 then (.refused (.unknownForm line), market)
    else
      match Decimal.quotient (digitsValue credits) numeral.value with
      | .error fault => (.failed fault, market)
      | .ok unitPrice =>
        if market.prices.contains item then (.refused (.pricedItem item), market)
        else (.learned, { market with prices := market.prices.insert item unitPrice })

/-- The number that a phrase says. -/
def tellNumber (market : Market) (phrase : Text) : Outcome :=
  match market.vocabulary.numeralOf phrase with
  | .error refusal => .refused refusal
  | .ok numeral => .replied (phrase ++ " is ".toList ++ Text.ofNat numeral.value)

/-- The credits for as many units of an item as a phrase says. -/
def tellCost (market : Market) (phrase item : Text) : Outcome :=
  match market.vocabulary.numeralOf phrase with
  | .error refusal => .refused refusal
  | .ok numeral =>
    match market.prices.get? item with
    | none => .refused (.unpricedItem item)
    | some unitPrice =>
      match unitPrice.times numeral.value with
      | .error fault => .failed fault
      | .ok total =>
        .replied (phrase ++ ' ' :: item ++ " is ".toList ++ creditsText total
          ++ " Credits".toList)

/-- The outcome of a request that a line makes, and the market after it. -/
def fulfil (market : Market) (line : Text) : Request → Outcome × Market
  | .teach word digit => market.teach word digit
  | .price phrase item credits => market.setPrice line phrase item credits
  | .number phrase => (market.tellNumber phrase, market)
  | .cost phrase item => (market.tellCost phrase item, market)

/-- The outcome of a line by the first of the forms that it has, and the market after it. Where there is
a log, the entry for the line comes after this (`Market.query`). -/
def ask (forms : List Form) (market : Market) (line : Text) : Outcome × Market :=
  match Request.ofLine? forms line with
  | none => (.refused (.unknownForm line), market)
  | some request => market.fulfil line request

end Market

end Tradespeak
