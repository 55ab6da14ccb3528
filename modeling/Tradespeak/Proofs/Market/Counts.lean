import Tradespeak.Proofs.Market.Proportion

/-!
# Counts are positive

A line that prices an item divides by the number that its phrase says.  That number is never zero,
whatever the words stand for, so that the check before the division never refuses a line.

* `Numeral.summands` — what the scan of a text adds, step by step and counted in integers.
* `Numeral.worthAfter_eq_sum`, `Numeral.summands_nonneg` — the value of a text is their sum, and none of
  them is negative.
* `Numeral.worth_eq_zero_iff` — only texts without a Roman digit are worth nothing.
* `Market.setPrice_outcome` — a price is never refused for its count, and nothing but overflow can happen
  to its arithmetic.
* `Market.ask_unknownForm_iff` — a line is refused as one of no known form just if it has none.

Principal result: `Market.counts_are_positive`.
-/

set_option autoImplicit false

namespace Tradespeak

/-! ## The scan in integers -/

namespace Numeral

variable {c : Char} {s : Text}

/-- **What the scan adds**, one integer for each step that adds something: a single digit, two equal
ones together, or a digit less the smaller one before it. -/
def summands : Option Char → Text → List ℤ
  | none, [] => []
  | some held, [] => [(digitWorth held : ℤ)]
  | none, c :: rest =>
    if isSubtractive c then summands (some c) rest else digitWorth c :: summands none rest
  | some held, c :: rest =>
    if held = c then ((digitWorth c : ℤ) + digitWorth held) :: summands none rest
    else if digitWorth held < digitWorth c then
      ((digitWorth c : ℤ) - digitWorth held) :: summands none rest
    else digitWorth held :: summands (some c) rest

/-- The value is the sum of what is added, so that counting it in natural numbers cuts nothing off. -/
theorem worthAfter_eq_sum (held : Option Char) (s : Text) :
    (worthAfter held s : ℤ) = (summands held s).sum := by
  fun_induction worthAfter held s with
  | case1 => rfl
  | case2 held => simp [summands]
  | case3 c rest hc ih => rw [ih, summands, if_pos hc]
  | case4 c rest hc ih => rw [summands, if_neg hc, List.sum_cons, ← ih, Nat.cast_add]
  | case5 held rest ih => simp [summands, ← ih]
  | case6 held c rest hne hlt ih =>
    rw [summands, if_neg hne, if_pos hlt, List.sum_cons, ← ih]
    omega
  | case7 held c rest hne hle ih =>
    rw [summands, if_neg hne, if_neg hle, List.sum_cons, ← ih, Nat.cast_add]

/-- **No step takes anything away from the total.** -/
theorem summands_nonneg (held : Option Char) (s : Text) : ∀ n ∈ summands held s, 0 ≤ n := by
  fun_induction summands held s with
  | case1 => simp
  | case2 held => simp
  | case3 c rest _ ih => exact ih
  | case4 c rest _ ih => simpa using ih
  | case5 held rest ih =>
    intro n hn
    rcases List.mem_cons.1 hn with rfl | hn
    · omega
    · exact ih n hn
  | case6 held c rest _ hlt ih =>
    intro n hn
    rcases List.mem_cons.1 hn with rfl | hn
    · omega
    · exact ih n hn
  | case7 held c rest _ _ ih => simpa using ih

/-! ## Texts that are worth nothing -/

theorem digitWorth_eq_zero_iff : digitWorth c = 0 ↔ c ∉ "IVXLCDM".toList := by
  unfold digitWorth
  split <;> simp_all

/-- What the scan adds up is nothing only if every digit is worth nothing, the one that is held back
among them: a pair that is subtracted leaves something. -/
theorem worthAfter_eq_zero_iff (held : Option Char) (s : Text) :
    worthAfter held s = 0 ↔ ∀ c ∈ held.toList ++ s, digitWorth c = 0 := by
  fun_induction worthAfter held s with
  | case1 => simp
  | case2 held => simp
  | case3 c rest _ ih => simpa using ih
  | case4 c rest _ ih =>
    simp only [Option.toList_none, List.nil_append] at ih
    simp [ih]
  | case5 held rest ih =>
    simp only [Option.toList_none, List.nil_append] at ih
    simp [ih]
  | case6 held c rest _ hlt ih =>
    -- the larger digit of the pair is worth something
    constructor
    · intro hzero
      omega
    · intro hnone
      have hc : digitWorth c = 0 := hnone c (by simp)
      omega
  | case7 held c rest _ _ ih =>
    simp only [Option.toList_some, List.singleton_append] at ih
    simp [ih]

/-- **Only texts without a Roman digit are worth nothing.** -/
theorem worth_eq_zero_iff : worth s = 0 ↔ ∀ c ∈ s, c ∉ "IVXLCDM".toList := by
  rw [worth, worthAfter_eq_zero_iff]
  simp only [Option.toList_none, List.nil_append, digitWorth_eq_zero_iff]

end Numeral

/-! ## Refusals and failures -/

theorem Vocabulary.numeralOf_ne_unknownForm (vocabulary : Vocabulary) (phrase s : Text) :
    vocabulary.numeralOf phrase ≠ .error (.unknownForm s) := by
  intro h
  rcases numeralOf_eq_error h with ⟨_, h⟩ | ⟨_, h⟩ <;> cases h

namespace Market

variable {forms : List Form} {market : Market} {line s : Text}

/-- **A price is never refused for its count, and nothing but overflow can happen to its arithmetic**:
the division is never by zero. -/
theorem setPrice_outcome (market : Market) (line phrase item credits : Text) :
    (∀ s, (market.setPrice line phrase item credits).1 ≠ .refused (.unknownForm s)) ∧
      ∀ fault, (market.setPrice line phrase item credits).1 = .failed fault → fault = .overflow := by
  cases hnumeral : market.vocabulary.numeralOf phrase with
  | error refusal =>
    have hrefused : (market.setPrice line phrase item credits).1 = .refused refusal := by
      simp only [setPrice, hnumeral]
    rw [hrefused]
    refine ⟨?_, by simp⟩
    rintro s ⟨⟩
    exact market.vocabulary.numeralOf_ne_unknownForm phrase s hnumeral
  | ok units =>
    have hends : PriceEnds market item _ (market.setPrice line phrase item credits) :=
      setPrice_ends hnumeral
    generalize market.setPrice line phrase item credits = ended at hends
    cases hends with
    | overflow => simp
    | priced => simp
    | learned _ => simp

theorem teach_ne_unknownForm (market : Market) (word digit s : Text) :
    (market.teach word digit).1 ≠ .refused (.unknownForm s) := by
  unfold teach
  split
  · simp
  · split <;> simp

theorem tellNumber_ne_unknownForm (market : Market) (phrase s : Text) :
    market.tellNumber phrase ≠ .refused (.unknownForm s) := by
  unfold tellNumber
  split
  · rename_i refusal hrefusal
    rintro ⟨⟩
    exact market.vocabulary.numeralOf_ne_unknownForm phrase s hrefusal
  · simp

theorem tellCost_ne_unknownForm (market : Market) (phrase item s : Text) :
    market.tellCost phrase item ≠ .refused (.unknownForm s) := by
  unfold tellCost
  split
  · rename_i refusal hrefusal
    rintro ⟨⟩
    exact market.vocabulary.numeralOf_ne_unknownForm phrase s hrefusal
  split
  · simp
  split <;> simp

/-- **A line is refused as one of no known form just if it has none.** -/
theorem ask_unknownForm_iff : (market.ask forms line).1 = .refused (.unknownForm s) ↔
    Request.ofLine? forms line = none ∧ s = line := by
  unfold ask
  cases Request.ofLine? forms line with
  | none => simp [eq_comm]
  | some request =>
    simp only [reduceCtorEq, false_and, iff_false]
    cases request with
    | teach word digit => exact market.teach_ne_unknownForm word digit s
    | price phrase item credits => exact (market.setPrice_outcome line phrase item credits).1 s
    | number phrase => exact market.tellNumber_ne_unknownForm phrase s
    | cost phrase item => exact market.tellCost_ne_unknownForm phrase item s

/-- **Counts are positive.**  The scan of a text never takes anything away from its total, and ends with
nothing just if the text has no Roman digit.  So whatever the words stand for, the count that a phrase
says lies between 1 and 3999: a line that prices an item is never refused for a count of zero, and never
divides by it.  A line is refused as one of no known form only if it has none. -/
theorem counts_are_positive :
    (∀ s : Text, (Numeral.worth s : ℤ) = (Numeral.summands none s).sum ∧
      (∀ n ∈ Numeral.summands none s, 0 ≤ n) ∧
      (Numeral.worth s = 0 ↔ ∀ c ∈ s, c ∉ "IVXLCDM".toList)) ∧
    (∀ (vocabulary : Vocabulary) (phrase : Text) (count : Numeral),
      vocabulary.numeralOf phrase = .ok count → 1 ≤ count.value ∧ count.value ≤ 3999) ∧
    (∀ (market : Market) (line phrase item credits : Text),
      Form.price.read line = some (.price phrase item credits) →
        (∀ s, (market.setPrice line phrase item credits).1 ≠ .refused (.unknownForm s)) ∧
        ∀ fault, (market.setPrice line phrase item credits).1 = .failed fault → fault = .overflow) ∧
    ∀ (forms : List Form) (market : Market) (line s : Text),
      (market.ask forms line).1 = .refused (.unknownForm s) ↔
        Request.ofLine? forms line = none ∧ s = line := by
  refine ⟨fun s => ⟨?_, Numeral.summands_nonneg none s, Numeral.worth_eq_zero_iff⟩, ?_, ?_, ?_⟩
  · exact Numeral.worthAfter_eq_sum none s
  · intro vocabulary phrase count _
    exact count.value_bounds
  · intro market line phrase item credits _
    exact market.setPrice_outcome line phrase item credits
  · intro forms market line s
    exact ask_unknownForm_iff

/-- Words that stand for no digit, for several, and for something else. -/
def oddWords : Vocabulary :=
  Table.ofList [("nil".toList, some []), ("pair".toList, some "XI".toList),
    ("odd".toList, some "?".toList)]

/-- A phrase whose words are worth nothing is refused as no numeral, and one that says a number says a
positive one. -/
theorem counts_are_positive_oddWords :
    oddWords.numeralOf "nil pair".toList = .ok ⟨"XI".toList, by decide⟩ ∧
      1 ≤ Numeral.value ⟨"XI".toList, by decide⟩ ∧ Numeral.value ⟨"XI".toList, by decide⟩ ≤ 3999 ∧
      Form.price.read "odd nil Silver is 34 Credits".toList =
        some (.price "odd nil".toList "Silver".toList "34".toList) ∧
      ∀ s, ((opening oddWords Table.empty).setPrice "odd nil Silver is 34 Credits".toList
        "odd nil".toList "Silver".toList "34".toList).1 ≠ .refused (.unknownForm s) := by
  obtain ⟨-, hcounts, hprices, -⟩ := counts_are_positive
  have hcount : oddWords.numeralOf "nil pair".toList = .ok ⟨"XI".toList, by decide⟩ :=
    Pattern.eq_ok_of_toOption (by decide +kernel)
  have hread : Form.price.read "odd nil Silver is 34 Credits".toList =
      some (.price "odd nil".toList "Silver".toList "34".toList) := by
    decide +kernel
  obtain ⟨hlow, hhigh⟩ := hcounts _ _ _ hcount
  exact ⟨hcount, hlow, hhigh, hread, (hprices _ _ _ _ _ hread).1⟩

end Market

end Tradespeak
