import Tradespeak.Market

/-!
# The log of a market

* `Journal.entry` — two lines for each line that has been answered or refused: the time, where it
  came from and its text, and below what it was taken for.
-/

set_option autoImplicit false

namespace Tradespeak.Journal

/-- What a line was taken for: its form, its fields and the cause of a refusal. -/
def reading (request : Option Request) (outcome : Outcome) : Text :=
  match request with
  | none => "  -> none".toList
  | some request =>
    let fields := request.fields.map fun field => field.1 ++ '=' :: field.2.quoted
    let cause :=
      match outcome with
      | .refused refusal => ["error=".toList ++ refusal.label]
      | _ => []
    "  -> ".toList ++ Text.joinWith ", ".toList (request.form.label :: fields ++ cause)

/-- The entry for a line. There is none if the arithmetic of the line failed. -/
def entry (time source line : Text) (request : Option Request) (outcome : Outcome) : Text :=
  match outcome with
  | .failed _ => []
  | _ =>
    time ++ ' ' :: source ++ "  ".toList ++ line ++ '\n' :: reading request outcome ++ ['\n']

end Tradespeak.Journal
