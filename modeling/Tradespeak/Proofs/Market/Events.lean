import Tradespeak.Proofs.Market.Order
import Tradespeak.Proofs.Request.Overlap

/-!
# What can happen to a market

Besides the lines that are said, words and prices may be put in directly, past the checks, and the
market may be opened anew over what is known.  The taken digits are then not always those of the
words.

* `Event` — a line is said, a word or a price is put in, the market is opened anew; `happen` and
  `afterEvents` — the market after an event, and after events one after another.
* `Keeps` — no word and no price is lost; `happen_keeps` — so it is with every event.
* `happen_word` — the digit of a word stays, unless the word itself is put in.
* `afterEvents_taken_iff` — between two openings the taken digits grow by those of the accepted
  lines, and by nothing else.
* `ask_teach_iff` — when a line that teaches a word is accepted.

Principal result: `events_invariant`.
-/

set_option autoImplicit false

namespace Tradespeak

/-- What can happen to a market. -/
inductive Event where
  | said (line : Text)
  | wordPut (word : Text) (digit : Digit)
  | pricePut (item : Text) (price : Decimal)
  | reopened
  deriving DecidableEq, Repr

namespace Market

/-- The market with the digit under the word, whatever was there. The taken digits stay. -/
def putWord (market : Market) (word : Text) (digit : Digit) : Market :=
  { market with vocabulary := market.vocabulary.insert word digit }

/-- The market with the price for the item, if it had none. -/
def putPrice (market : Market) (item : Text) (price : Decimal) : Market :=
  if market.prices.contains item then market
  else { market with prices := market.prices.insert item price }

/-- The market after an event. -/
def happen (forms : List Form) (market : Market) : Event → Market
  | .said line => (market.ask forms line).2
  | .wordPut word digit => market.putWord word digit
  | .pricePut item price => market.putPrice item price
  | .reopened => market.reopened

/-- The market after events one after another. -/
def afterEvents (forms : List Form) (market : Market) (events : List Event) : Market :=
  events.foldl (happen forms) market

/-- The lines that are accepted amid events. -/
def acceptedAmid (forms : List Form) : Market → List Event → List Text
  | _, [] => []
  | market, .said line :: rest =>
    if (market.ask forms line).1 = .learned then
      line :: acceptedAmid forms (market.ask forms line).2 rest
    else acceptedAmid forms (market.ask forms line).2 rest
  | market, event :: rest => acceptedAmid forms (market.happen forms event) rest

/-- **The digits that count as used** after events since an opening: those that words had then, and
those of the words that were taught since by lines. -/
def InUse (forms : List Form) (opened : Market) (since : List Event) (digit : Digit) : Prop :=
  digit ∈ opened.vocabulary.assignedDigits ∨
    ∃ line ∈ acceptedAmid forms opened since, ∃ word, Teaches forms line word digit

/-- The events end with an opening, which may be the first one. -/
def EndWithOpening (events : List Event) : Prop :=
  events = [] ∨ ∃ earlier, events = earlier ++ [.reopened]

/-- The next market has all words and all prices of the market, the words perhaps with other
digits. -/
structure Keeps (market next : Market) : Prop where
  words : ∀ word, market.vocabulary.contains word = true → next.vocabulary.contains word = true
  prices : ∀ item price, market.prices.get? item = some price →
    next.prices.get? item = some price

variable {forms : List Form} {market next later : Market} {line word item : Text}
  {events since more : List Event} {event : Event} {digit : Digit} {price : Decimal}

@[simp] theorem afterEvents_cons (forms : List Form) (market : Market) (event : Event)
    (events : List Event) : market.afterEvents forms (event :: events) =
      (market.happen forms event).afterEvents forms events := rfl

theorem afterEvents_append (forms : List Form) (market : Market) (events more : List Event) :
    market.afterEvents forms (events ++ more) =
      (market.afterEvents forms events).afterEvents forms more :=
  List.foldl_append

/-! ## Words and prices -/

theorem Keeps.refl (market : Market) : Keeps market market := ⟨fun _ h => h, fun _ _ h => h⟩

theorem Keeps.trans (h : Keeps market next) (h' : Keeps next later) : Keeps market later :=
  ⟨fun word hword => h'.words word (h.words word hword),
    fun item price hprice => h'.prices item price (h.prices item price hprice)⟩

theorem Extends.keeps (h : Extends market next) : Keeps market next := by
  refine ⟨fun word hword => ?_, h.prices⟩
  obtain ⟨digit, hdigit⟩ := Option.isSome_iff_exists.1 hword
  exact Option.isSome_iff_exists.2 ⟨digit, h.words word digit hdigit⟩

theorem putWord_keeps (market : Market) (word : Text) (digit : Digit) :
    Keeps market (market.putWord word digit) := by
  refine ⟨fun other hother => ?_, fun _ _ h => h⟩
  show ((market.vocabulary.insert word digit).get? other).isSome = true
  rw [Table.get?_insert]
  split
  · rfl
  · exact hother

theorem putPrice_keeps (market : Market) (item : Text) (price : Decimal) :
    Keeps market (market.putPrice item price) := by
  unfold putPrice
  split
  · exact .refl market
  · rename_i habsent
    refine ⟨fun _ h => h, fun other old hother => ?_⟩
    rw [Table.get?_insert, if_neg, hother]
    rintro rfl
    exact habsent (Option.isSome_iff_exists.2 ⟨old, hother⟩)

theorem happen_keeps (forms : List Form) (market : Market) (event : Event) :
    Keeps market (market.happen forms event) := by
  cases event with
  | said line => exact (ask_extends forms market line).keeps
  | wordPut word digit => exact putWord_keeps market word digit
  | pricePut item price => exact putPrice_keeps market item price
  | reopened => exact ⟨fun _ h => h, fun _ _ h => h⟩

/-- **No word is lost and no price changes**, whatever happens. -/
theorem afterEvents_keeps (forms : List Form) (market : Market) (events : List Event) :
    Keeps market (market.afterEvents forms events) := by
  induction events generalizing market with
  | nil => exact .refl market
  | cons event events ih => exact (happen_keeps forms market event).trans (ih _)

/-- The digit of a word stays, unless the word itself is put in. -/
theorem happen_word (hword : market.vocabulary.get? word = some digit)
    (hevent : ∀ other, event ≠ .wordPut word other) :
    (market.happen forms event).vocabulary.get? word = some digit := by
  cases event with
  | said line => exact (ask_extends forms market line).words word digit hword
  | wordPut other d =>
    show (market.vocabulary.insert other d).get? word = some digit
    rw [Table.get?_insert, if_neg, hword]
    rintro rfl
    exact hevent d rfl
  | pricePut item price =>
    show (market.putPrice item price).vocabulary.get? word = some digit
    unfold putPrice
    split <;> exact hword
  | reopened => exact hword

/-- **A word's digit changes only when the word itself is put in.** -/
theorem afterEvents_word (hword : market.vocabulary.get? word = some digit)
    (hevents : ∀ other, .wordPut word other ∉ events) :
    (market.afterEvents forms events).vocabulary.get? word = some digit := by
  induction events generalizing market with
  | nil => exact hword
  | cons event events ih =>
    refine ih (happen_word hword fun other heq => ?_) fun other hmem => ?_
    · exact hevents other (by rw [heq]; exact List.mem_cons_self)
    · exact hevents other (List.mem_cons_of_mem _ hmem)

/-! ## Taken digits -/

/-- **Between two openings the taken digits grow by those of the accepted lines**, and by nothing
else, whatever words are put in. -/
theorem afterEvents_taken_iff (hsince : .reopened ∉ since) :
    digit ∈ (market.afterEvents forms since).taken ↔ digit ∈ market.taken ∨
      ∃ line ∈ acceptedAmid forms market since, ∃ word, Teaches forms line word digit := by
  induction since generalizing market with
  | nil => simp [afterEvents, acceptedAmid]
  | cons event since ih =>
    have hlater : .reopened ∉ since := fun h => hsince (List.mem_cons_of_mem _ h)
    rw [afterEvents_cons, ih hlater]
    cases event with
    | said line =>
      rw [acceptedAmid]
      rcases ask_cases forms market line with ⟨hother, hsame⟩ | ⟨hlearned, hlearns⟩
      · rw [if_neg hother, happen, hsame]
      · rw [if_pos hlearned, happen, hlearns.taken_iff, or_assoc]
        simp
    | wordPut word d => exact Iff.rfl
    | pricePut item price =>
      have htaken : (market.happen forms (.pricePut item price)).taken = market.taken := by
        show (market.putPrice item price).taken = market.taken
        unfold putPrice
        split <;> rfl
      rw [htaken]
      exact Iff.rfl
    | reopened => exact absurd List.mem_cons_self hsince

/-- All events are those up to the last opening, and those since. -/
theorem exists_last_opening (events : List Event) :
    ∃ earlier since, events = earlier ++ since ∧ EndWithOpening earlier ∧ .reopened ∉ since := by
  induction events using List.reverseRecOn with
  | nil => exact ⟨[], [], rfl, Or.inl rfl, by simp⟩
  | append_singleton events event ih =>
    obtain ⟨earlier, since, rfl, hearlier, hsince⟩ := ih
    by_cases hevent : event = .reopened
    · subst hevent
      exact ⟨earlier ++ since ++ [.reopened], [], by simp, Or.inr ⟨_, rfl⟩, by simp⟩
    · refine ⟨earlier, since ++ [event], by simp, hearlier, fun hmem => ?_⟩
      rcases List.mem_append.1 hmem with hmem | hmem
      · exact hsince hmem
      · exact hevent (List.mem_singleton.1 hmem).symm

/-- At an opening the taken digits are those of the words. -/
theorem EndWithOpening.taken_eq (h : EndWithOpening events) (forms : List Form)
    (vocabulary : Vocabulary) (prices : PriceList) :
    ((opening vocabulary prices).afterEvents forms events).taken =
      ((opening vocabulary prices).afterEvents forms events).vocabulary.assignedDigits := by
  rcases h with rfl | ⟨earlier, rfl⟩
  · rfl
  · rw [afterEvents_append]
    rfl

/-- When a line that teaches a word is accepted. -/
theorem ask_teach_iff {d : Text} (hforms : .teach ∈ forms)
    (hread : Form.teach.read line = some (.teach word d)) :
    (market.ask forms line).1 = .learned ↔
      market.vocabulary.contains word = false ∧ some d ∉ market.taken := by
  unfold ask
  rw [Request.ofLine?_of_teach_read hforms hread]
  show (market.teach word d).1 = .learned ↔ _
  unfold teach
  split
  · rename_i hword
    simp [hword]
  split
  · rename_i hdigit
    simp [hdigit]
  · rename_i hword hdigit
    simp [hword, hdigit]

/-- **What holds whatever happens to a market**, be it lines that are said, words or prices that are
put in directly, or new openings, in any order.  No word and no price is lost, and no price changes.
A word's digit changes only when the word itself is put in.  The taken digits are always those that
the words had at the last opening and those that lines have taught since.  A line that teaches a
word is accepted just if the word is not known and its digit is not one of these. -/
theorem events_invariant (forms : List Form) (vocabulary : Vocabulary) (prices : PriceList) :
    (∀ earlier more word,
        ((opening vocabulary prices).afterEvents forms earlier).vocabulary.contains word = true →
        ((opening vocabulary prices).afterEvents forms (earlier ++ more)).vocabulary.contains word =
          true) ∧
      (∀ earlier more item price,
        ((opening vocabulary prices).afterEvents forms earlier).prices.get? item = some price →
        ((opening vocabulary prices).afterEvents forms (earlier ++ more)).prices.get? item =
          some price) ∧
      (∀ earlier more word digit,
        ((opening vocabulary prices).afterEvents forms earlier).vocabulary.get? word = some digit →
        (∀ other, .wordPut word other ∉ more) →
        ((opening vocabulary prices).afterEvents forms (earlier ++ more)).vocabulary.get? word =
          some digit) ∧
      (∀ events, ∃ earlier since,
        events = earlier ++ since ∧ EndWithOpening earlier ∧ .reopened ∉ since) ∧
      ∀ earlier since, EndWithOpening earlier → .reopened ∉ since →
        (∀ digit,
          digit ∈ ((opening vocabulary prices).afterEvents forms (earlier ++ since)).taken ↔
            InUse forms ((opening vocabulary prices).afterEvents forms earlier) since digit) ∧
        ∀ line word digit, .teach ∈ forms → Form.teach.read line = some (.teach word digit) →
          ((((opening vocabulary prices).afterEvents forms (earlier ++ since)).ask forms line).1 =
              .learned ↔
            ((opening vocabulary prices).afterEvents forms
                (earlier ++ since)).vocabulary.contains word = false ∧
              ¬ InUse forms ((opening vocabulary prices).afterEvents forms earlier) since
                (some digit)) := by
  refine ⟨fun earlier more word hword => ?_, fun earlier more item price hprice => ?_,
    fun earlier more word digit hword hmore => ?_, exists_last_opening,
    fun earlier since hearlier hsince => ?_⟩
  · rw [afterEvents_append]
    exact (afterEvents_keeps forms _ more).words word hword
  · rw [afterEvents_append]
    exact (afterEvents_keeps forms _ more).prices item price hprice
  · rw [afterEvents_append]
    exact afterEvents_word hword hmore
  · have htaken : ∀ digit,
        digit ∈ ((opening vocabulary prices).afterEvents forms (earlier ++ since)).taken ↔
          InUse forms ((opening vocabulary prices).afterEvents forms earlier) since digit := by
      intro digit
      rw [afterEvents_append, afterEvents_taken_iff hsince, hearlier.taken_eq]
      rfl
    refine ⟨htaken, fun line word digit hforms hread => ?_⟩
    rw [ask_teach_iff hforms hread, htaken]

/-- A word is taught and then put in with another digit, and the market is opened anew. -/
def driftBefore : List Event :=
  [.said "glob is I".toList, .wordPut "glob".toList (some "V".toList), .reopened]

/-- The digit that has become free is taught, and a word is put in directly. -/
def driftSince : List Event := [.said "prok is I".toList, .wordPut "pish".toList (some "X".toList)]

/-- The digit of a word that was put in directly is not taken, so that it may be taught. -/
theorem events_invariant_drift :
    (((opening Table.empty Table.empty).afterEvents Form.all driftBefore).vocabulary.get?
        "glob".toList = some (some "V".toList) ∧
      (∀ other, .wordPut "glob".toList other ∉ driftSince) ∧
      ((opening Table.empty Table.empty).afterEvents Form.all
        (driftBefore ++ driftSince)).vocabulary.get? "glob".toList = some (some "V".toList)) ∧
    EndWithOpening driftBefore ∧ .reopened ∉ driftSince ∧ .teach ∈ Form.all ∧
      Form.teach.read "tegj is X".toList = some (.teach "tegj".toList "X".toList) ∧
      (((opening Table.empty Table.empty).afterEvents Form.all (driftBefore ++ driftSince)).ask
        Form.all "tegj is X".toList).1 = .learned ∧
      ¬ InUse Form.all ((opening Table.empty Table.empty).afterEvents Form.all driftBefore)
        driftSince (some "X".toList) := by
  obtain ⟨-, -, hword, -, hopening⟩ := events_invariant Form.all Table.empty Table.empty
  have hglob : ((opening Table.empty Table.empty).afterEvents Form.all
      driftBefore).vocabulary.get? "glob".toList = some (some "V".toList) := by
    decide +kernel
  have hother : ∀ other, .wordPut "glob".toList other ∉ driftSince := by
    simp [driftSince]
  have hbefore : EndWithOpening driftBefore := Or.inr ⟨driftBefore.take 2, rfl⟩
  have hsince : .reopened ∉ driftSince := by decide
  have hread : Form.teach.read "tegj is X".toList =
      some (.teach "tegj".toList "X".toList) := by
    decide +kernel
  have hlearned : (((opening Table.empty Table.empty).afterEvents Form.all
      (driftBefore ++ driftSince)).ask Form.all "tegj is X".toList).1 = .learned := by
    decide +kernel
  obtain ⟨-, haccepted⟩ := hopening driftBefore driftSince hbefore hsince
  exact ⟨⟨hglob, hother, hword _ _ _ _ hglob hother⟩, hbefore, hsince, by decide, hread, hlearned,
    ((haccepted _ _ _ (by decide) hread).1 hlearned).2⟩

end Market

end Tradespeak
