import Tradespeak.Request
import Tradespeak.Numeral

/-!
# Demonstrations

* `Demonstration` — the parts of the program that can show themselves on a few examples.
* `Demonstration.screen` — what such a show prints, one line for each example.
-/

set_option autoImplicit false

namespace Tradespeak

/-- What is shown. -/
inductive Demonstration where
  | numerals
  | linesOf (form : Form)
  deriving DecidableEq, Repr

namespace Demonstration

/-- The examples of numerals, with some that are none. -/
def numeralExamples : List String :=
  ["I", "III", "IV", "XIV", "XXVI", "XLII", "CXXIV", "MMMCMIX", "", "IIII", "MMMM", "XM"]

/-- The examples of lines for a form, with some that do not have it. -/
def lineExamples : Form → List String
  | .teach =>
    ["glob is I", "prok IS V", "Glob is I", "glob is i", "glob is IV", "how much is glob?"]
  | .price =>
    ["glob glob Silver is 34 Credits", "glob prok Gold is 57800 Credits",
      "pish pish Iron is 3910 Credits", "glob glob Dark Matter is 12 credits",
      "Silver is 34 Credits", "glob glob Silver is 34.5 Credits"]
  | .number => []
  | .cost =>
    ["how many credits is glob prok Silver?", "How many Credits is pish glob prok Dark Matter?",
      "how many credits is Silver?", "how much is glob prok Silver?"]

/-- The width of the column of examples. -/
def width : Demonstration → Nat
  | numerals => 15
  | linesOf .teach => 30
  | linesOf .price => 45
  | linesOf .number => 0
  | linesOf .cost => 50

/-- A line that shows an example and what comes of it. -/
def row (demonstration : Demonstration) (sample result : Text) : Text :=
  "  ".toList ++ sample.quoted.padEnd demonstration.width ++ " => ".toList ++ result ++ ['\n']

/-- What comes of an example. -/
def result : Demonstration → Text → Text
  | numerals, sample =>
    match Numeral.read sample with
    | .ok numeral => Text.ofNat numeral.value
    | .error refusal => refusal.message
  | linesOf form, sample =>
    match form.read sample with
    | none => "None".toList
    | some request =>
      request.form.label ++ ' ' ::
        Text.quotedEntries (request.fields.map fun field => (field.1, field.2.quoted))

/-- The examples of a demonstration. -/
def samples : Demonstration → List String
  | numerals => numeralExamples
  | linesOf form => lineExamples form

/-- What a demonstration prints. -/
def screen (demonstration : Demonstration) : Text :=
  demonstration.samples.flatMap fun sample =>
    demonstration.row sample.toList (demonstration.result sample.toList)

end Demonstration

end Tradespeak
