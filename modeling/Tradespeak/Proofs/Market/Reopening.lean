import Tradespeak.Proofs.Market.Events

/-!
# Opening a market anew

* `Table.entries_insert` — a new name is put last.
* `Vocabulary.assignedDigits_insert` — a new word with a new digit adds just this digit.
* `reopened_eq_iff`, `Learns.reopened_eq` — what a new opening over the words and prices of a market
  would give, and that accepted lines keep it.
* `historyAmid`, `historyAmid_eq` — the outcomes of the lines among events, each with the market
  after it.

Principal result: `reopening_irrelevant` — openings between the lines change nothing.
-/

set_option autoImplicit false

namespace Tradespeak

theorem Table.entries_insert {α : Type} {table : Table α} {name : Text} (value : α)
    (hname : table.get? name = none) :
    (table.insert name value).entries = table.entries ++ [(name, value)] := by
  have habsent : ∀ entry ∈ table.entries, entry.1 ≠ name := by
    intro entry hentry heq
    have hnone := List.lookup_eq_none_iff.1 hname entry hentry
    simp [heq] at hnone
  show put name value table.entries = _
  generalize table.entries = entries at habsent
  induction entries with
  | nil => rfl
  | cons entry rest ih =>
    rw [put, if_neg (habsent entry List.mem_cons_self),
      ih fun other hother => habsent other (List.mem_cons_of_mem _ hother)]
    rfl

/-- A new word with a new digit adds just this digit. -/
theorem Vocabulary.assignedDigits_insert {vocabulary : Vocabulary} {word : Text} {digit : Digit}
    (hword : vocabulary.get? word = none) (hdigit : digit ∉ vocabulary.assignedDigits) :
    assignedDigits (vocabulary.insert word digit) = vocabulary.assignedDigits ++ [digit] := by
  rw [assignedDigits, List.mem_eraseDups] at hdigit
  unfold assignedDigits digits at *
  rw [Table.entries_insert digit hword, List.map_append, List.eraseDups_append]
  simp [List.removeAll, hdigit, List.eraseDups_cons]

/-- The line of an event, if a line is said. -/
def Event.line? : Event → Option Text
  | said line => some line
  | _ => none

namespace Market

/-- The outcomes of the lines that are said amid events, each with the market after it. -/
def historyAmid (forms : List Form) : Market → List Event → List (Outcome × Market)
  | _, [] => []
  | market, .said line :: rest =>
    market.ask forms line :: historyAmid forms (market.ask forms line).2 rest
  | market, event :: rest => historyAmid forms (market.happen forms event) rest

variable {forms : List Form} {market next : Market} {line : Text} {events : List Event}

/-- A new opening of a market changes nothing just if the taken digits are listed as the words
have them. -/
theorem reopened_eq_iff : market.reopened = market ↔
    market.taken = market.vocabulary.assignedDigits := by
  constructor
  · intro h
    rw [← h]
    rfl
  · intro h
    unfold reopened opening
    rw [← h]

/-- **What a new opening would give is kept by every line that is accepted**: a word comes with its
digit, and a digit with its word. -/
theorem Learns.reopened_eq (h : Learns forms market line next) (hmarket : market.reopened = market) :
    next.reopened = next := by
  rw [reopened_eq_iff] at hmarket ⊢
  cases h with
  | word hline hword hdigit =>
    rw [hmarket] at hdigit
    rw [Vocabulary.assignedDigits_insert hword hdigit, ← hmarket]
  | price hline hnumeral hvalue hquotient hitem => exact hmarket

theorem ask_reopened_eq (hmarket : market.reopened = market) (forms : List Form) (line : Text) :
    (market.ask forms line).2.reopened = (market.ask forms line).2 := by
  rcases ask_cases forms market line with ⟨-, hsame⟩ | ⟨-, hlearns⟩
  · rw [hsame, hmarket]
  · exact hlearns.reopened_eq hmarket

/-- **Openings between the lines change no outcome and no market.** -/
theorem historyAmid_eq (hmarket : market.reopened = market)
    (hevents : ∀ event ∈ events, event = .reopened ∨ ∃ line, event = .said line) :
    market.historyAmid forms events = market.history forms (events.filterMap Event.line?) ∧
      market.afterEvents forms events = market.after forms (events.filterMap Event.line?) := by
  induction events generalizing market with
  | nil => exact ⟨rfl, rfl⟩
  | cons event events ih =>
    have hlater : ∀ event ∈ events, event = .reopened ∨ ∃ line, event = .said line :=
      fun other hother => hevents other (List.mem_cons_of_mem _ hother)
    rcases hevents event List.mem_cons_self with rfl | ⟨line, rfl⟩
    · rw [historyAmid, afterEvents_cons, happen, hmarket]
      · exact ih hmarket hlater
      · simp
    · obtain ⟨hhistory, hafter⟩ := ih (ask_reopened_eq hmarket forms line) hlater
      have hlines : (Event.said line :: events).filterMap Event.line? =
          line :: events.filterMap Event.line? := rfl
      rw [hlines, historyAmid, history, hhistory]
      exact ⟨rfl, hafter⟩

/-- **A new opening changes nothing.**  From any opening, over any words and prices, a run of lines
with new openings anywhere between them gives every line the same outcome and the same market after
it as the run of the lines alone, and after every event the market is the one that the lines so far
give. -/
theorem reopening_irrelevant (forms : List Form) (vocabulary : Vocabulary) (prices : PriceList)
    (events : List Event)
    (hevents : ∀ event ∈ events, event = .reopened ∨ ∃ line, event = .said line) :
    (opening vocabulary prices).historyAmid forms events =
        (opening vocabulary prices).history forms (events.filterMap Event.line?) ∧
      ∀ earlier more, events = earlier ++ more →
        (opening vocabulary prices).afterEvents forms earlier =
          (opening vocabulary prices).after forms (earlier.filterMap Event.line?) := by
  have hopening : (opening vocabulary prices).reopened = opening vocabulary prices := rfl
  refine ⟨(historyAmid_eq hopening hevents).1, ?_⟩
  rintro earlier more rfl
  have hearlier : ∀ event ∈ earlier, event = .reopened ∨ ∃ line, event = .said line :=
    fun event hevent => hevents event (List.mem_append_left _ hevent)
  exact (historyAmid_eq hopening hearlier).2

/-- Two words with one digit. -/
def twins : Vocabulary := Table.ofList [("glob".toList, some "I".toList),
  ("tegj".toList, some "I".toList)]

/-- Lines with openings before the last one, whose digit is taken. -/
def reopenedAmid : List Event :=
  [.said "prok is V".toList, .reopened, .said "pish is X".toList, .reopened, .reopened,
    .said "zug is V".toList]

/-- A digit that has been taught stays taken over new openings. -/
theorem reopening_irrelevant_takenDigit :
    (∀ event ∈ reopenedAmid, event = .reopened ∨ ∃ line, event = .said line) ∧
      (opening twins Table.empty).historyAmid Form.all reopenedAmid =
        (opening twins Table.empty).history Form.all
          ["prok is V".toList, "pish is X".toList, "zug is V".toList] := by
  have hevents : ∀ event ∈ reopenedAmid, event = .reopened ∨ ∃ line, event = .said line := by
    simp [reopenedAmid]
  exact ⟨hevents, (reopening_irrelevant Form.all twins Table.empty reopenedAmid hevents).1⟩

end Market

end Tradespeak
