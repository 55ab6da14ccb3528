import Tradespeak.Journal

/-!
# Conversations

* `Turn` — a line, what it was taken for, and its outcome.
* `Market.converse` — the turns for lines said one after another, up to the first one whose
  arithmetic fails.
* `Market.prompted` — the turns for lines that are typed, each being answered as soon as it ends.
* `Turn.shown` — what the user sees of a turn: the reply, or a sentence for any refusal.
-/

set_option autoImplicit false

namespace Tradespeak

/-- A line, what it was taken for, and its outcome. -/
structure Turn where
  line : Text
  request : Option Request
  outcome : Outcome
  deriving DecidableEq, Repr

/-- The sentence for any refusal. -/
def refusalSentence : Text := "I have no idea what you are talking about".toList

namespace Turn

/-- The answer that the user sees, if any. -/
def answer? (turn : Turn) : Option Text :=
  match turn.outcome with
  | .learned | .failed _ => none
  | .replied reply => some reply
  | .refused _ => some refusalSentence

/-- The line that the user sees, if any. -/
def shown (turn : Turn) : Text :=
  match turn.answer? with
  | none => []
  | some answer => answer ++ ['\n']

/-- The fault of the arithmetic of the turn. -/
def fault? (turn : Turn) : Option Decimal.Fault :=
  match turn.outcome with
  | .failed fault => some fault
  | _ => none

/-- The entry of the turn in the log. -/
def entry (time source : Text) (turn : Turn) : Text :=
  Journal.entry time source turn.line turn.request turn.outcome

end Turn

namespace Market

/-- The turn for a line, and the market after it. -/
def turn (forms : List Form) (market : Market) (line : Text) : Turn × Market :=
  let (outcome, next) := market.ask forms line
  (⟨line, Request.ofLine? forms line, outcome⟩, next)

/-- The turns for lines said one after another, up to the first one whose arithmetic fails. -/
def converse (forms : List Form) (market : Market) : List Text → List Turn
  | [] => []
  | line :: rest =>
    let (turn, next) := market.turn forms line
    turn :: if turn.fault?.isSome then [] else next.converse forms rest

/-- The turns for what is typed, up to the first one whose arithmetic fails. A line feed ends a line,
and so does the end of what is typed, unless the line has not begun. The first text is what has been
typed of the current line, last character first. -/
def prompted (forms : List Form) (market : Market) (typed : Text) : Text → List Turn
  | [] => if typed = [] then [] else [(market.turn forms typed.reverse).1]
  | c :: rest =>
    if c = '\n' then
      let (turn, next) := market.turn forms typed.reverse
      turn :: if turn.fault?.isSome then [] else next.prompted forms [] rest
    else market.prompted forms (c :: typed) rest

end Market

end Tradespeak
