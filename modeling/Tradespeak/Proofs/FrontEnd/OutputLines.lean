import Tradespeak.Proofs.Decimal.Printing
import Tradespeak.Proofs.FrontEnd.Log
import Tradespeak.Proofs.Market.Reopening

/-!
# The lines of an output

* `Outcome.AnsweredBy` — the text is the reply, or the sentence for refusals.
* `Market.Replies`, `Market.replies_of_replied` — all that a reply can be, with what it was found from.
* `Market.feed_not_mem_of_replied` — a line without a line feed gets no reply with one: what the reply
  repeats of the line stands in the line, and the rest is words and digits.
* `Market.known` — the number of words and of prices that are known. `Learns.known_eq` — a line that is
  learned adds one. `Market.length_not_learned` — so the others are counted by what is known in the end.
* `splitOn_ended` — lines with their ends are told apart at these ends.

Principal result: `output_lines` — an output has one line for each line that is not learned.
-/

set_option autoImplicit false

namespace Tradespeak

/-- The text answers an outcome: it is the reply, or the sentence for refusals. -/
inductive Outcome.AnsweredBy : Outcome → Text → Prop
  | reply {reply : Text} : AnsweredBy (.replied reply) reply
  | refusal {refusal : Refusal} : AnsweredBy (.refused refusal) refusalSentence

/-- An outcome has one answer at most. -/
theorem Outcome.answeredBy_unique : Relator.RightUnique AnsweredBy := by
  intro outcome answer other h hother
  cases h <;> cases hother <;> rfl

/-! ## Replies -/

theorem IsPlain.feed_not_mem {s : Text} (h : IsPlain s) : '\n' ∉ s := by
  intro hfeed
  rcases h '\n' hfeed with hdigit | hpoint
  · exact absurd hdigit (by decide)
  · exact absurd hpoint (by decide)

theorem Decimal.feed_not_mem_sign (negative : Bool) : '\n' ∉ sign negative := by
  cases negative <;> decide

/-- No decimal is written with a line feed, be it a number or not. -/
theorem Decimal.feed_not_mem_plain (d : Decimal) : '\n' ∉ d.plain := by
  cases d with
  | finite negative coefficient exponent =>
    show '\n' ∉ sign negative ++ withPoint (Text.ofNat coefficient) _
    rw [List.mem_append, not_or]
    exact ⟨feed_not_mem_sign negative,
      (isPlain_withPoint (isPlain_ofNat coefficient) _).feed_not_mem⟩
  | infinite negative => cases negative <;> decide
  | nan negative signalling payload =>
    have hword : '\n' ∉ if signalling then "sNaN".toList else "NaN".toList := by
      cases signalling <;> decide
    have hpayload : '\n' ∉ if payload = 0 then [] else Text.ofNat payload := by
      split
      · exact List.not_mem_nil
      · exact (isPlain_ofNat payload).feed_not_mem
    show '\n' ∉ sign negative ++ _ ++ _
    rw [List.mem_append, List.mem_append, not_or, not_or]
    exact ⟨⟨feed_not_mem_sign negative, hword⟩, hpayload⟩

theorem Table.size_insert {α : Type} {table : Table α} {name : Text} (value : α)
    (hname : table.get? name = none) : (table.insert name value).size = table.size + 1 := by
  rw [size, entries_insert value hname, List.length_append]
  rfl

namespace Market

variable {forms : List Form} {market next : Market} {line reply : Text} {lines : List Text}

/-- **What a reply can be**: it repeats the phrase, and the item if the line asks for one. -/
inductive Replies (forms : List Form) (market : Market) (line : Text) : Text → Prop
  | number {phrase : Text} {numeral : Numeral}
      (hline : Request.ofLine? forms line = some (.number phrase))
      (hnumeral : market.vocabulary.numeralOf phrase = .ok numeral) :
      Replies forms market line (phrase ++ " is ".toList ++ Text.ofNat numeral.value)
  | cost {phrase item : Text} {numeral : Numeral} {unitPrice total : Decimal}
      (hline : Request.ofLine? forms line = some (.cost phrase item))
      (hnumeral : market.vocabulary.numeralOf phrase = .ok numeral)
      (hprice : market.prices.get? item = some unitPrice)
      (htotal : unitPrice.times numeral.value = .ok total) :
      Replies forms market line
        (phrase ++ ' ' :: item ++ " is ".toList ++ creditsText total ++ " Credits".toList)

theorem teach_ne_replied (market : Market) (word digit : Text) :
    (market.teach word digit).1 ≠ .replied reply := by
  unfold teach
  split
  · simp
  split <;> simp

theorem setPrice_ne_replied (market : Market) (line phrase item credits : Text) :
    (market.setPrice line phrase item credits).1 ≠ .replied reply := by
  unfold setPrice
  split
  · simp
  split
  · simp
  split
  · simp
  split <;> simp

/-- A line that is replied to asks for a number or for credits, and the reply is found from what is
known. -/
theorem replies_of_replied (h : (market.ask forms line).1 = .replied reply) :
    Replies forms market line reply := by
  unfold ask at h
  split at h
  · cases h
  rename_i request hline
  cases request with
  | teach word digit => exact absurd h (market.teach_ne_replied word digit)
  | price phrase item credits => exact absurd h (market.setPrice_ne_replied line phrase item credits)
  | number phrase =>
    change market.tellNumber phrase = _ at h
    unfold tellNumber at h
    split at h
    · cases h
    · rename_i numeral hnumeral
      cases h
      exact .number hline hnumeral
  | cost phrase item =>
    change market.tellCost phrase item = _ at h
    unfold tellCost at h
    split at h
    · cases h
    rename_i numeral hnumeral
    split at h
    · cases h
    rename_i unitPrice hprice
    split at h
    · cases h
    · rename_i total htotal
      cases h
      exact .cost hline hnumeral hprice htotal

/-- **A line without a line feed gets no reply with one.** -/
theorem feed_not_mem_of_replied (hline : '\n' ∉ line)
    (h : (market.ask forms line).1 = .replied reply) : '\n' ∉ reply := by
  have hfields : ∀ {request : Request}, Request.ofLine? forms line = some request →
      ∀ field ∈ request.fields, '\n' ∉ field.2 := fun hrequest field hfield hfeed =>
    hline ((Request.infix_of_mem_fields hrequest field hfield).mem hfeed)
  have his : '\n' ∉ " is ".toList := by decide
  cases replies_of_replied h with
  | @number phrase numeral hrequest hnumeral =>
    have hphrase : '\n' ∉ phrase := hfields hrequest ("number".toList, phrase) List.mem_cons_self
    have hnumber : '\n' ∉ Text.ofNat numeral.value := (isPlain_ofNat _).feed_not_mem
    rw [List.mem_append, List.mem_append, not_or, not_or]
    exact ⟨⟨hphrase, his⟩, hnumber⟩
  | @cost phrase item numeral unitPrice total hrequest hnumeral hprice htotal =>
    have hphrase : '\n' ∉ phrase := hfields hrequest ("number".toList, phrase) List.mem_cons_self
    have hitem : '\n' ∉ ' ' :: item := by
      have hname : '\n' ∉ item := hfields hrequest ("item".toList, item)
        (List.mem_cons_of_mem _ List.mem_cons_self)
      simpa using hname
    have htotal : '\n' ∉ creditsText total := Decimal.feed_not_mem_plain _
    have hcredits : '\n' ∉ " Credits".toList := by decide
    simp only [List.mem_append, not_or]
    exact ⟨⟨⟨⟨hphrase, hitem⟩, his⟩, htotal⟩, hcredits⟩

/-! ## What is known in the end -/

/-- The number of words and of prices that are known. -/
def known (market : Market) : ℕ := market.vocabulary.size + market.prices.size

/-- A line that is learned adds one word or one price. -/
theorem Learns.known_eq (h : Learns forms market line next) : next.known = market.known + 1 := by
  cases h with
  | word hline hword hdigit =>
    show (market.vocabulary.insert _ _).size + market.prices.size = known market + 1
    rw [Table.size_insert _ hword, known]
    omega
  | price hline hnumeral hvalue hquotient hitem =>
    show market.vocabulary.size + (market.prices.insert _ _).size = known market + 1
    rw [Table.size_insert _ hitem, known]
    omega

/-- **Every line adds to what is known or has an outcome to speak of**, and none does both. -/
theorem length_not_learned (forms : List Form) (market : Market) (lines : List Text) :
    ((market.outcomes forms lines).filter (· ≠ .learned)).length +
      (market.after forms lines).known = lines.length + market.known := by
  induction lines generalizing market with
  | nil => rfl
  | cons line lines ih =>
    have hlater := ih (market.ask forms line).2
    rw [outcomes_cons, after_cons, List.length_cons]
    rcases ask_cases forms market line with ⟨hother, hsame⟩ | ⟨hlearned, hlearns⟩
    · rw [List.filter_cons_of_pos (by simpa using hother), List.length_cons]
      rw [hsame] at hlater ⊢
      omega
    · rw [List.filter_cons_of_neg (by simpa using hlearned)]
      have hone := hlearns.known_eq
      omega

end Market

/-! ## Answers -/

variable {lines : List Text} {turns : List Turn}

/-- Turns that do not fail have an answer each, unless something is learned, and what is shown of them
are the answers with their ends. -/
theorem answers_spec (h : ∀ turn ∈ turns, ∀ fault, turn.outcome ≠ .failed fault) :
    List.Forall₂ Outcome.AnsweredBy ((turns.map Turn.outcome).filter (· ≠ .learned))
        (turns.filterMap Turn.answer?) ∧
      turns.flatMap Turn.shown = (turns.filterMap Turn.answer?).flatMap (· ++ ['\n']) := by
  induction turns with
  | nil => exact ⟨.nil, rfl⟩
  | cons turn turns ih =>
    obtain ⟨hturn, hlater⟩ := List.forall_mem_cons.1 h
    obtain ⟨hanswers, hshown⟩ := ih hlater
    obtain ⟨line, request, outcome⟩ := turn
    cases outcome with
    | learned => exact ⟨hanswers, hshown⟩
    | replied reply => exact ⟨.cons .reply hanswers, congrArg (reply ++ ['\n'] ++ ·) hshown⟩
    | refused refusal =>
      exact ⟨.cons .refusal hanswers, congrArg (refusalSentence ++ ['\n'] ++ ·) hshown⟩
    | failed fault => exact absurd rfl (hturn fault)

/-- Lines with their ends are told apart at these ends. -/
theorem splitOn_ended {answers : List Text} (h : ∀ answer ∈ answers, '\n' ∉ answer) :
    (answers.flatMap (· ++ ['\n'])).splitOn '\n' = answers ++ [[]] := by
  induction answers with
  | nil => rfl
  | cons answer answers ih =>
    obtain ⟨hanswer, hlater⟩ := List.forall_mem_cons.1 h
    rw [List.flatMap_cons, List.append_assoc, List.singleton_append,
      List.splitOn_append_cons_self_of_not_mem hanswer, ih hlater, List.cons_append]

/-- No answer to a line without a line feed has one. -/
theorem Market.feed_not_mem_answer {forms : List Form} {market : Market} {answer : Text}
    (hlines : ∀ line ∈ lines, '\n' ∉ line) (hanswered : market.AllAnswered forms lines)
    (h : answer ∈ (market.converse forms lines).filterMap Turn.answer?) : '\n' ∉ answer := by
  obtain ⟨turn, hturn, hanswer⟩ := List.mem_filterMap.1 h
  obtain ⟨now, hnow⟩ := mem_converse hanswered hturn
  have hline : '\n' ∉ turn.line := by
    apply hlines
    rw [← converse_lines hanswered]
    exact List.mem_map_of_mem hturn
  have houtcome : turn.outcome = (now.ask forms turn.line).1 := congrArg Turn.outcome hnow
  unfold Turn.answer? at hanswer
  split at hanswer
  · cases hanswer
  · cases hanswer
  · rename_i reply hreply
    cases hanswer
    exact feed_not_mem_of_replied hline (houtcome.symm.trans hreply)
  · cases hanswer
    decide

/-- **An output has one line for each line that is not learned**, in order: the reply to it, or the
sentence for refusals.  When no arithmetic fails, what is shown of the lines is made of these answers,
each with a line feed after it and none in it, so that splitting it at the line feeds gives back the
answers.  There are as many as there are lines, less the words and the prices that are known in the
end.  This is what a run shows over any file with these lines. -/
theorem output_lines (hlines : ∀ line ∈ lines, '\n' ∉ line)
    (hanswered : Market.empty.AllAnswered Form.all lines) :
    ∃ answers output final, output = (Market.empty.converse Form.all lines).flatMap Turn.shown ∧
      final = Market.empty.after Form.all lines ∧
      List.Forall₂ Outcome.AnsweredBy
        ((Market.empty.outcomes Form.all lines).filter (· ≠ .learned)) answers ∧
      (∀ answer ∈ answers, '\n' ∉ answer) ∧
      output = answers.flatMap (· ++ ['\n']) ∧ output.splitOn '\n' = answers ++ [[]] ∧
      answers.length + (final.vocabulary.size + final.prices.size) = lines.length ∧
      ∀ time commandLine typed name path content store,
        Arguments.read commandLine = .ok ⟨some name, none, none⟩ → store.openRead name = .ok path →
        (store.content path).read = (content, none) → Text.HasLines content lines →
        run time commandLine typed store = ⟨.exit 0, output, store⟩ := by
  obtain ⟨hanswers, hshown⟩ := answers_spec fun _ hturn => hanswered.not_failed hturn
  rw [Market.converse_outcomes hanswered] at hanswers
  have hfeed : ∀ answer ∈ (Market.empty.converse Form.all lines).filterMap Turn.answer?,
      '\n' ∉ answer := fun _ h => Market.feed_not_mem_answer hlines hanswered h
  have hlength := Market.length_not_learned Form.all Market.empty lines
  have hempty : Market.empty.known = 0 := rfl
  rw [hanswers.length_eq, hempty] at hlength
  refine ⟨_, _, _, rfl, rfl, hanswers, hfeed, hshown, ?_, hlength, ?_⟩
  · rw [hshown]
    exact splitOn_ended hfeed
  · intro time commandLine typed name path content store hread hopen hcontent htext
    rw [run_file hread, Market.flatMap_turn_shown hanswered]
    exact answerFile_to_screen hopen hcontent htext hanswered time

/-- Lines of which one has no character, and some have blanks that end lines elsewhere. -/
def spacedLines : List Text :=
  ["glob is I".toList, [], "glob Silver\u2029Ore is 17 Credits".toList,
    "how much is glob\u2028glob ?".toList,
    "how many credits is glob\x0cglob Silver\u2029Ore?".toList, "glob is X".toList]

/-- The outcomes of the lines. -/
def spacedOutcomes : List Outcome :=
  [.learned, .refused (.unknownForm []), .learned, .replied "glob\u2028glob is 2".toList,
    .replied "glob\x0cglob Silver\u2029Ore is 34 Credits".toList,
    .refused (.knownWord "glob".toList)]

/-- The answers to the lines. -/
def spacedAnswers : List Text :=
  ["I have no idea what you are talking about".toList, "glob\u2028glob is 2".toList,
    "glob\x0cglob Silver\u2029Ore is 34 Credits".toList,
    "I have no idea what you are talking about".toList]

/-- Six lines, of which one teaches a word and one prices an item, get four answers. -/
theorem output_lines_spaced :
    (∀ line ∈ spacedLines, '\n' ∉ line) ∧ Market.empty.AllAnswered Form.all spacedLines ∧
      ((Market.empty.converse Form.all spacedLines).flatMap Turn.shown).splitOn '\n' =
        spacedAnswers ++ [[]] ∧
      (Market.empty.after Form.all spacedLines).known = 2 := by
  have hlines : ∀ line ∈ spacedLines, '\n' ∉ line := by decide
  have houtcomes : Market.empty.outcomes Form.all spacedLines = spacedOutcomes := by
    decide +kernel
  have hanswered : Market.empty.AllAnswered Form.all spacedLines := by
    simp [Market.AllAnswered, houtcomes, spacedOutcomes]
  have hspoken : List.Forall₂ Outcome.AnsweredBy (spacedOutcomes.filter (· ≠ .learned))
      spacedAnswers := .cons .refusal (.cons .reply (.cons .reply (.cons .refusal .nil)))
  obtain ⟨answers, output, final, houtput, hfinal, hanswers, -, -, hsplit, hlength, -⟩ :=
    output_lines hlines hanswered
  rw [houtcomes] at hanswers
  have hsame := Outcome.answeredBy_unique.forall₂ hanswers hspoken
  have hfour : spacedAnswers.length = 4 := rfl
  have hsix : spacedLines.length = 6 := rfl
  rw [hsame, hfour, hsix] at hlength
  refine ⟨hlines, hanswered, ?_, ?_⟩
  · rw [← houtput, hsplit, hsame]
  · rw [← hfinal, Market.known]
    omega

end Tradespeak
