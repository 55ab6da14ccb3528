import Mathlib.Data.List.Induction
import Tradespeak.Proofs.Market.Agreement

/-!
# The order in which lines are said

* `accepted` — the lines that are accepted when they are said one after another; `AllAccepted` — all
  of them are.
* `after_iff` — what is known after lines is what was known before them and what the accepted ones
  add.
* `after_word_iff`, `after_taken_iff`, `after_price_iff` — so it is with words, taken digits and
  prices. A price may be computed with the words that are known at the end.
* `Request.Clashes`, `Request.Uses` — two requests that exclude each other, and a price that needs a
  word.
* `agrees_of_same_accepted` — what is known at the end depends on nothing but the accepted lines.
* `AllAccepted.reorder` — accepted lines may be put into any order where words come before the
  prices that use them.

Principal result: `accepted_order_irrelevant`.
-/

set_option autoImplicit false

namespace Tradespeak

namespace Request

/-- The requests exclude each other: they teach one word, or one digit, or price one item. -/
def Clashes : Request → Request → Prop
  | teach word digit, teach word' digit' => word = word' ∨ digit = digit'
  | price _ item _, price _ item' _ => item = item'
  | _, _ => False

theorem Clashes.symm {request request' : Request} (h : request.Clashes request') :
    request'.Clashes request := by
  cases request with
  | teach word digit =>
    cases request' with
    | teach word' digit' => exact h.imp Eq.symm Eq.symm
    | price | number | cost => exact h
  | price phrase item credits =>
    cases request' with
    | price phrase' item' credits' => exact Eq.symm h
    | teach | number | cost => exact h
  | number phrase => exact h.elim
  | cost phrase item => exact h.elim

/-- The first request prices an item with a word that the second one teaches. -/
def Uses : Request → Request → Prop
  | price phrase _ _, teach word _ => word ∈ Text.words phrase
  | _, _ => False

end Request

namespace Market

/-- The lines that are accepted when they are said one after another. -/
def accepted (forms : List Form) : Market → List Text → List Text
  | _, [] => []
  | market, line :: rest =>
    if (market.ask forms line).1 = .learned then
      line :: accepted forms (market.ask forms line).2 rest
    else accepted forms (market.ask forms line).2 rest

/-- All lines are accepted when they are said one after another. -/
def AllAccepted (forms : List Form) : Market → List Text → Prop
  | _, [] => True
  | market, line :: rest =>
    (market.ask forms line).1 = .learned ∧ AllAccepted forms (market.ask forms line).2 rest

/-- The line gives the word this digit. -/
def Teaches (forms : List Form) (line word : Text) (digit : Digit) : Prop :=
  ∃ d, Request.ofLine? forms line = some (.teach word d) ∧ digit = some d

/-- The line gives the item this price, when its phrase is read with the vocabulary. -/
def SetsPrice (forms : List Form) (vocabulary : Vocabulary) (line item : Text) (price : Decimal) :
    Prop :=
  ∃ phrase credits numeral, Request.ofLine? forms line = some (.price phrase item credits) ∧
    vocabulary.numeralOf phrase = .ok numeral ∧
    Decimal.quotient (digitsValue credits) numeral.value = .ok price

/-- The requests of the two lines exclude each other. -/
def Clash (forms : List Form) (line line' : Text) : Prop :=
  ∃ request request', Request.ofLine? forms line = some request ∧
    Request.ofLine? forms line' = some request' ∧ request.Clashes request'

/-- The lines that teach words come before the lines that price items with them. -/
def WordsFirst (forms : List Form) (lines : List Text) : Prop :=
  lines.Pairwise fun earlier later => ¬ ∃ request request',
    Request.ofLine? forms earlier = some request ∧ Request.ofLine? forms later = some request' ∧
      request.Uses request'

variable {forms : List Form} {market next final : Market} {line word item : Text}
  {lines before rest : List Text} {digit : Digit} {price : Decimal}

/-! ## What an accepted line adds -/

theorem Learns.word_iff (h : Learns forms market line next) :
    next.vocabulary.get? word = some digit ↔
      market.vocabulary.get? word = some digit ∨ Teaches forms line word digit := by
  cases h with
  | @word w d hline hword hdigit =>
    have hteaches : Teaches forms line word digit ↔ word = w ∧ digit = some d := by
      simp [Teaches, hline, eq_comm]
    rw [Table.get?_insert, hteaches]
    by_cases heq : word = w
    · rw [if_pos heq, heq, hword]
      simp [eq_comm]
    · rw [if_neg heq]
      simp [heq]
  | price hline hnumeral hvalue hquotient hitem => simp [Teaches, hline]

theorem Learns.taken_iff (h : Learns forms market line next) :
    digit ∈ next.taken ↔ digit ∈ market.taken ∨ ∃ word, Teaches forms line word digit := by
  cases h with
  | @word w d hline hword hdigit =>
    rw [List.mem_append, List.mem_singleton]
    simp [Teaches, hline]
  | price hline hnumeral hvalue hquotient hitem => simp [Teaches, hline]

/-- The price is the same with every vocabulary that has the words of this market. -/
theorem Learns.price_iff (h : Learns forms market line next) (hfinal : Extends next final) :
    next.prices.get? item = some price ↔
      market.prices.get? item = some price ∨ SetsPrice forms final.vocabulary line item price := by
  cases h with
  | word hline hword hdigit => simp [SetsPrice, hline]
  | @price phrase i credits numeral unitPrice hline hnumeral hvalue hquotient hitem =>
    have hlater : final.vocabulary.numeralOf phrase = .ok numeral := by
      rcases Vocabulary.numeralOf_mono hfinal.words phrase with ⟨w, hunknown⟩ | hsame
      · rw [hunknown] at hnumeral
        cases hnumeral
      · rw [hsame, hnumeral]
    have hsets : SetsPrice forms final.vocabulary line item price ↔
        item = i ∧ price = unitPrice := by
      constructor
      · rintro ⟨phrase', credits', numeral', hline', hnumeral', hquotient'⟩
        rw [hline] at hline'
        cases hline'
        rw [hlater] at hnumeral'
        cases hnumeral'
        rw [hquotient] at hquotient'
        cases hquotient'
        exact ⟨rfl, rfl⟩
      · rintro ⟨rfl, rfl⟩
        exact ⟨phrase, credits, numeral, hline, hlater, hquotient⟩
    rw [Table.get?_insert, hsets]
    by_cases heq : item = i
    · rw [if_pos heq, heq, hitem]
      simp [eq_comm]
    · rw [if_neg heq]
      simp [heq]

/-! ## What lines add -/

/-- **What is known after lines is what was known before them and what the accepted ones add**, for
everything of which this holds line by line. -/
theorem after_iff {P : Market → Prop} {Q : Text → Prop} (forms : List Form)
    (hstep : ∀ {market line next}, Learns forms market line next → Extends next final →
      (P next ↔ P market ∨ Q line))
    (hfinal : Extends (market.after forms lines) final) :
    P (market.after forms lines) ↔ P market ∨ ∃ line ∈ accepted forms market lines, Q line := by
  induction lines generalizing market with
  | nil => simp [accepted]
  | cons line lines ih =>
    rw [after_cons] at hfinal ⊢
    rw [ih hfinal, accepted]
    rcases ask_cases forms market line with ⟨hother, hsame⟩ | ⟨hlearned, hlearns⟩
    · rw [if_neg hother, hsame]
    · rw [if_pos hlearned,
        hstep hlearns ((after_extends forms _ lines).trans hfinal), or_assoc]
      simp

theorem after_word_iff : (market.after forms lines).vocabulary.get? word = some digit ↔
    market.vocabulary.get? word = some digit ∨
      ∃ line ∈ accepted forms market lines, Teaches forms line word digit :=
  after_iff (P := fun market => market.vocabulary.get? word = some digit) forms
    (fun h _ => h.word_iff) (.refl _)

theorem after_taken_iff : digit ∈ (market.after forms lines).taken ↔
    digit ∈ market.taken ∨
      ∃ line ∈ accepted forms market lines, ∃ word, Teaches forms line word digit :=
  after_iff (P := fun market => digit ∈ market.taken) forms (fun h _ => h.taken_iff) (.refl _)

/-- A price may be computed with the words that are known at the end. -/
theorem after_price_iff : (market.after forms lines).prices.get? item = some price ↔
    market.prices.get? item = some price ∨ ∃ line ∈ accepted forms market lines,
      SetsPrice forms (market.after forms lines).vocabulary line item price :=
  after_iff (P := fun market => market.prices.get? item = some price) forms
    (fun h hfinal => h.price_iff hfinal) (.refl _)

/-- **What is known at the end depends on nothing but the accepted lines.** -/
theorem agrees_of_same_accepted {lines' : List Text}
    (h : ∀ line, line ∈ accepted forms market lines ↔ line ∈ accepted forms market lines') :
    Agrees (market.after forms lines) (market.after forms lines') := by
  have hwords : ∀ word, (market.after forms lines).vocabulary.get? word =
      (market.after forms lines').vocabulary.get? word := by
    intro word
    apply Option.ext
    intro digit
    simp only [after_word_iff, h]
  refine ⟨hwords, fun digit => ?_, fun item => ?_⟩
  · simp only [after_taken_iff, h]
  · apply Option.ext
    intro price
    have hnumeral : ∀ phrase, (market.after forms lines).vocabulary.numeralOf phrase =
        (market.after forms lines').vocabulary.numeralOf phrase :=
      fun _ => Vocabulary.numeralOf_congr fun word _ => hwords word
    simp only [after_price_iff, h, SetsPrice, hnumeral]

/-! ## Lines that are all accepted -/

theorem allAccepted_append {more : List Text} : AllAccepted forms market (lines ++ more) ↔
    AllAccepted forms market lines ∧ AllAccepted forms (market.after forms lines) more := by
  induction lines generalizing market with
  | nil => simp [AllAccepted]
  | cons line lines ih => rw [List.cons_append, AllAccepted, ih, AllAccepted, and_assoc, after_cons]

theorem AllAccepted.accepted_eq (h : AllAccepted forms market lines) :
    accepted forms market lines = lines := by
  induction lines generalizing market with
  | nil => rfl
  | cons line lines ih => rw [accepted, if_pos h.1, ih h.2]

theorem Learns.ask_eq (h : Learns forms market line next) :
    market.ask forms line = (.learned, next) := by
  unfold ask
  cases h with
  | word hline hword hdigit =>
    rw [hline]
    simp [fulfil, teach, Table.contains_eq_false_iff.2 hword, hdigit]
  | price hline hnumeral hvalue hquotient hitem =>
    rw [hline]
    simp [fulfil, setPrice, hnumeral, hvalue, hquotient, Table.contains_eq_false_iff.2 hitem]

/-- Of lines that are all accepted, each one is accepted after those before it. -/
theorem AllAccepted.learns (h : AllAccepted forms market (before ++ line :: rest)) :
    ∃ next, Learns forms (market.after forms before) line next := by
  obtain ⟨hlearned, -⟩ := (allAccepted_append.1 h).2
  exact ⟨_, learns_of_learned hlearned⟩

/-- Two lines that are accepted one after the other do not exclude each other. -/
theorem Learns.not_clash {later next' : Market} {line' : Text}
    (h : Learns forms market line next) (hlater : Extends next later)
    (h' : Learns forms later line' next') : ¬ Clash forms line line' := by
  rintro ⟨request, request', hline, hline', hclash⟩
  cases h with
  | @word w d hw _ _ =>
    cases hw.symm.trans hline
    cases h' with
    | @word w' d' hw' hfresh hfree =>
      cases hw'.symm.trans hline'
      rcases hclash with rfl | rfl
      · have hknown := hlater.words w _ (by rw [Table.get?_insert, if_pos rfl])
        rw [hfresh] at hknown
        cases hknown
      · exact hfree (hlater.taken _ (by simp))
    | price hp _ _ _ _ =>
      cases hp.symm.trans hline'
      exact hclash
  | @price phrase i credits numeral unitPrice hp _ _ _ _ =>
    cases hp.symm.trans hline
    cases h' with
    | word hw' _ _ =>
      cases hw'.symm.trans hline'
      exact hclash
    | @price phrase' i' credits' numeral' unitPrice' hp' _ _ _ hfresh =>
      cases hp'.symm.trans hline'
      obtain rfl : i = i' := hclash
      have hknown := hlater.prices i _ (by rw [Table.get?_insert, if_pos rfl])
      rw [hfresh] at hknown
      cases hknown

theorem AllAccepted.pairwise (h : AllAccepted forms market lines) :
    lines.Pairwise fun line line' => ¬ Clash forms line line' := by
  induction lines generalizing market with
  | nil => exact .nil
  | cons line lines ih =>
    refine .cons (fun line' hline' => ?_) (ih h.2)
    have hfirst : AllAccepted forms market ([] ++ line :: lines) := h
    obtain ⟨next, hlearns⟩ := hfirst.learns
    obtain ⟨before, rest, rfl⟩ := List.append_of_mem hline'
    obtain ⟨next', hlearns'⟩ := h.2.learns
    refine hlearns.not_clash ?_ hlearns'
    rw [after_nil] at hlearns
    rw [hlearns.ask_eq]
    exact after_extends forms next before

theorem Clash.symm {line' : Text} (h : Clash forms line line') : Clash forms line' line := by
  obtain ⟨request, request', hline, hline', hclash⟩ := h
  exact ⟨request', request, hline', hline, hclash.symm⟩

/-! ## Other orders -/

/-- Every word of a phrase that spells a numeral stands for a digit. -/
theorem exists_digit_of_numeralOf {vocabulary : Vocabulary} {phrase : Text} {numeral : Numeral}
    (h : vocabulary.numeralOf phrase = .ok numeral) (hword : word ∈ Text.words phrase) :
    ∃ digit, vocabulary.get? word = some digit := by
  unfold Vocabulary.numeralOf at h
  split at h
  · cases h
  rename_i digits hspell
  obtain ⟨ds, hds, -⟩ := Vocabulary.spell_eq_ok_iff.1 hspell
  obtain ⟨i, hi, rfl⟩ := List.mem_iff_getElem.1 hword
  exact ⟨_, hds.get hi (hds.length_eq ▸ hi)⟩

/-- **A line that is accepted in one order is accepted in the other.**  `lines` are the lines in the
one order, of which `before` come before it, and `said` are the lines before it in the other. -/
theorem Learns.moved {said : List Text} (h : Learns forms (market.after forms before) line next)
    (hbefore : AllAccepted forms market before) (hsaid : AllAccepted forms market said)
    (hclash : ∀ line' ∈ said, ¬ Clash forms line' line)
    (huses : ∀ line' ∈ before, line' ∉ said → ¬ ∃ request request',
      Request.ofLine? forms line = some request ∧ Request.ofLine? forms line' = some request' ∧
        request.Uses request') :
    ∃ next', Learns forms (market.after forms said) line next' := by
  have hextends := after_extends forms market before
  cases h with
  | @word word d hline hword hdigit =>
    refine ⟨_, .word hline (Option.eq_none_iff_forall_ne_some.2 fun digit hknown => ?_)
      fun htaken => ?_⟩
    · rcases after_word_iff.1 hknown with hknown | ⟨line', hline', d', hteaches, -⟩
      · rw [hextends.words word digit hknown] at hword
        cases hword
      · rw [hsaid.accepted_eq] at hline'
        exact hclash line' hline' ⟨_, _, hteaches, hline, Or.inl rfl⟩
    · rcases after_taken_iff.1 htaken with htaken | ⟨line', hline', word', d', hteaches, heq⟩
      · exact hdigit (hextends.taken _ htaken)
      · rw [hsaid.accepted_eq] at hline'
        cases heq
        exact hclash line' hline' ⟨_, _, hteaches, hline, Or.inr rfl⟩
  | @price phrase item credits numeral unitPrice hline hnumeral hvalue hquotient hitem =>
    have hsame : (market.after forms said).vocabulary.numeralOf phrase = .ok numeral := by
      rw [← hnumeral]
      refine Vocabulary.numeralOf_congr fun word hword => ?_
      obtain ⟨digit, hdigit⟩ := exists_digit_of_numeralOf hnumeral hword
      rw [hdigit]
      -- the word was known at the beginning, or a line that has been said taught it
      rcases after_word_iff.1 hdigit with hknown | ⟨line', hline', hteaches⟩
      · exact (after_extends forms market said).words word digit hknown
      · refine after_word_iff.2 (Or.inr ⟨line', ?_, hteaches⟩)
        rw [hbefore.accepted_eq] at hline'
        rw [hsaid.accepted_eq]
        by_contra hnot
        obtain ⟨d, hteach, -⟩ := hteaches
        exact huses line' hline' hnot ⟨_, _, hline, hteach, hword⟩
    refine ⟨_, .price hline hsame hvalue hquotient
      (Option.eq_none_iff_forall_ne_some.2 fun price hpriced => ?_)⟩
    rcases after_price_iff.1 hpriced with hpriced |
      ⟨line', hline', phrase', credits', numeral', hprices, -⟩
    · rw [hextends.prices item price hpriced] at hitem
      cases hitem
    · rw [hsaid.accepted_eq] at hline'
      exact hclash line' hline' ⟨_, _, hprices, hline, rfl⟩

/-- **Accepted lines may be put into any order** where words come before the prices that use
them. -/
theorem AllAccepted.reorder {lines' : List Text} (h : AllAccepted forms market lines)
    (hperm : lines'.Perm lines) (hwords : WordsFirst forms lines') :
    AllAccepted forms market lines' := by
  have hclash : lines'.Pairwise fun line line' => ¬ Clash forms line line' :=
    (hperm.pairwise_iff fun hnot hsymm => hnot hsymm.symm).2 h.pairwise
  suffices hprefix : ∀ said rest, lines' = said ++ rest → AllAccepted forms market said from
    hprefix lines' [] (List.append_nil _).symm
  intro said
  induction said using List.reverseRecOn with
  | nil => exact fun _ _ => trivial
  | append_singleton said line ih =>
    intro rest hsplit
    rw [List.append_assoc, List.singleton_append] at hsplit
    have hsaid := ih (line :: rest) hsplit
    obtain ⟨before, later, rfl⟩ : ∃ before later, lines = before ++ line :: later :=
      List.append_of_mem (hperm.subset (by simp [hsplit]))
    obtain ⟨next, hlearns⟩ := h.learns
    rw [hsplit] at hclash hwords hperm
    obtain ⟨next', hmoved⟩ := hlearns.moved (allAccepted_append.1 h).1 hsaid
      (fun line' hline' => (List.pairwise_append.1 hclash).2.2 _ hline' _ List.mem_cons_self)
      (by
        -- a line before it that has not been said comes later, and so teaches none of its words
        intro line' hline' hnot huses
        have hmem : line' ∈ said ++ line :: rest :=
          hperm.symm.subset (List.mem_append_left _ hline')
        rcases List.mem_append.1 hmem with hmem | hmem
        · exact hnot hmem
        rcases List.mem_cons.1 hmem with rfl | hmem
        · obtain ⟨request, request', hline, hline', huses⟩ := huses
          rw [hline] at hline'
          cases hline'
          cases request <;> exact huses
        · have hlater := (List.pairwise_append.1 hwords).2.1
          exact (List.pairwise_cons.1 hlater).1 line' hmem huses)
    rw [allAccepted_append]
    exact ⟨hsaid, by rw [hmoved.ask_eq], trivial⟩

/-- **Nothing but the accepted lines counts, and not their order.**  If the same lines are accepted
in two conversations that begin with the same market, whatever else is said in them, both end with
markets that know the same, so that every later line has the same outcome after either.  And if all
lines are accepted, so are they in every order where words come before the prices that use them. -/
theorem accepted_order_irrelevant (forms : List Form) (market : Market) (lines lines' : List Text) :
    ((accepted forms market lines).Perm (accepted forms market lines') →
      Agrees (market.after forms lines) (market.after forms lines') ∧
        ∀ more line,
          (((market.after forms lines).after forms more).ask forms line).1 =
            (((market.after forms lines').after forms more).ask forms line).1) ∧
      (AllAccepted forms market lines → lines'.Perm lines → WordsFirst forms lines' →
        AllAccepted forms market lines') := by
  constructor
  · intro hperm
    have hagrees := agrees_of_same_accepted fun line => hperm.mem_iff
    exact ⟨hagrees, fun more line => ((hagrees.after forms more).ask forms line).1⟩
  · intro h hperm hwords
    exact h.reorder hperm hwords

/-- Two words and a price that uses one of them, all accepted. -/
def wordsAndPrice : List Text :=
  ["glob is I".toList, "glob Gold is 5 Credits".toList, "prok is V".toList]

/-- The same in another order. -/
def wordsAndPriceMoved : List Text :=
  ["prok is V".toList, "glob is I".toList, "glob Gold is 5 Credits".toList]

/-- Among the same lines in the other order, some that are not accepted. -/
def wordsAndPriceTalk : List Text :=
  ["how much is glob?".toList, "prok is V".toList, "glob is I".toList, "prok is X".toList,
    "glob Gold is 5 Credits".toList, "how many Credits is prok Gold?".toList]

/-- Questions and refused lines between the accepted ones make no difference, nor does the order. -/
theorem accepted_order_irrelevant_wordsAndPrice :
    (accepted Form.all Market.empty wordsAndPrice).Perm
        (accepted Form.all Market.empty wordsAndPriceTalk) ∧
      Agrees (Market.empty.after Form.all wordsAndPrice)
        (Market.empty.after Form.all wordsAndPriceTalk) ∧
      AllAccepted Form.all Market.empty wordsAndPrice ∧
      wordsAndPriceMoved.Perm wordsAndPrice ∧ WordsFirst Form.all wordsAndPriceMoved ∧
      AllAccepted Form.all Market.empty wordsAndPriceMoved := by
  have haccepted : accepted Form.all Market.empty wordsAndPriceTalk = wordsAndPriceMoved := by
    decide +kernel
  have hall : AllAccepted Form.all Market.empty wordsAndPrice := by
    unfold wordsAndPrice
    exact ⟨by decide +kernel, by decide +kernel, by decide +kernel, trivial⟩
  have hperm : wordsAndPriceMoved.Perm wordsAndPrice := by decide +kernel
  have hgold : Request.ofLine? Form.all "glob Gold is 5 Credits".toList =
      some (.price "glob".toList "Gold".toList "5".toList) := by
    decide +kernel
  have hprok : Request.ofLine? Form.all "prok is V".toList =
      some (.teach "prok".toList "V".toList) := by
    decide +kernel
  have hglob : Request.ofLine? Form.all "glob is I".toList =
      some (.teach "glob".toList "I".toList) := by
    decide +kernel
  have hwords : WordsFirst Form.all wordsAndPriceMoved := by
    unfold WordsFirst wordsAndPriceMoved
    simp [hgold, hprok, hglob, Request.Uses, -String.reduceToList]
  have hboth : (accepted Form.all Market.empty wordsAndPrice).Perm
      (accepted Form.all Market.empty wordsAndPriceTalk) := by
    rw [hall.accepted_eq, haccepted]
    exact hperm.symm
  obtain ⟨hsame, hreorder⟩ :=
    accepted_order_irrelevant Form.all Market.empty wordsAndPrice wordsAndPriceTalk
  obtain ⟨-, hmoved⟩ :=
    accepted_order_irrelevant Form.all Market.empty wordsAndPrice wordsAndPriceMoved
  exact ⟨hboth, (hsame hboth).1, hall, hperm, hwords, hmoved hall hperm hwords⟩

end Market

end Tradespeak
