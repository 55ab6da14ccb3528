import Tradespeak.FrontEnd.Conversation
import Tradespeak.FrontEnd.FileStore

/-!
# Lines said to a market with a log

* `Utterance` — a line with the time at which it is said and its source.
* `FileStore.note` — puts an entry at the end of the log, if there is one.
* `Market.query` — the result of a line, the market after it and the files after it. The entry is put
  into the log when the market has changed already.

A text consists of whole characters, so that every entry can be written. What can go wrong with the log
is that its file cannot be opened.
-/

set_option autoImplicit false

namespace Tradespeak

/-- A line with the time at which it is said and its source. -/
structure Utterance where
  time : Text
  source : Text
  line : Text
  deriving DecidableEq, Repr

/-- The store with an entry at the end of the log of that name, if there is a log. A log that cannot be
opened is passed over, if its name can be the name of a file at all. -/
def FileStore.note (store : FileStore) (log : Option Text) (entry : Text) :
    Except OsError FileStore :=
  match log with
  | none => .ok store
  | some name =>
    match store.openAppend name with
    | .ok (path, store) => .ok (store.append path entry)
    | .error .nulInName => .error .nulInName
    | .error _ => .ok store

/-- What a line that is said leaves behind: its outcome, or the error of the log in place of it, the
market and the files. -/
structure Answer where
  result : Except OsError Outcome
  market : Market
  store : FileStore

namespace Market

/-- A line is said to a market with a log. What the line changes in the market is changed before its
entry is put into the log. There is no entry for a line whose arithmetic fails. -/
def query (forms : List Form) (log : Option Text) (market : Market) (store : FileStore)
    (said : Utterance) : Answer :=
  let (turn, next) := market.turn forms said.line
  match turn.fault? with
  | some fault => ⟨.ok (.failed fault), next, store⟩
  | none =>
    match store.note log (turn.entry said.time said.source) with
    | .ok store => ⟨.ok turn.outcome, next, store⟩
    | .error error => ⟨.error error, next, store⟩

end Market

end Tradespeak
