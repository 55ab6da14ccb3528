import Tradespeak.FrontEnd.Run
import Tradespeak.Proofs.Decimal.Overflow
import Tradespeak.Proofs.Market.WellFormed
import Tradespeak.Proofs.Numeral.Canonical

/-!
# Lines that get no answer

A line is learned, replied to or refused, unless its arithmetic fails, and then nothing of the later
lines is answered.

* `PricesFinite` — the prices are numbers, which lines keep (`PricesFinite.after`).
* `Exceeds`, `Overflows` — the unit price or the total that a request, or a line, asks for is too
  large for the format.
* `ask_failed_iff` — the arithmetic fails for this reason only.
* `WithinLimits` — no line overflows when it is said.
* `converse_append` — lines that do not overflow get a turn each, before those of the later lines.

Principal results: `answers_unless_overflow` — lines are answered up to the first one that overflows;
`converse_of_short` — from nothing, lines that are not very long are all answered.
-/

set_option autoImplicit false

namespace Tradespeak

theorem decimalDigit?_le {c : Char} {digit : ℕ} (h : decimalDigit? c = some digit) : digit ≤ 9 := by
  obtain ⟨range, -, rfl⟩ := Option.map_eq_some_iff.1 h
  omega

/-- The number that digits write has at most as many digits. -/
theorem digitsValue_lt (digits : Text) : digitsValue digits < 10 ^ digits.length := by
  have hfold : ∀ value, digits.foldl (fun value c => 10 * value + (decimalDigit? c).getD 0) value <
      (value + 1) * 10 ^ digits.length := by
    induction digits with
    | nil =>
      intro value
      simp
    | cons c digits ih =>
      intro value
      have hdigit : (decimalDigit? c).getD 0 ≤ 9 := by
        cases hc : decimalDigit? c with
        | none => decide
        | some digit => exact decimalDigit?_le hc
      calc _ < (10 * value + (decimalDigit? c).getD 0 + 1) * 10 ^ digits.length := ih _
        _ ≤ (10 * value + 10) * 10 ^ digits.length := Nat.mul_le_mul_right _ (by omega)
        _ = (value + 1) * 10 ^ (c :: digits).length := by
          rw [List.length_cons, pow_succ]
          ring
  simpa [digitsValue] using hfold 0

namespace Market

/-- The prices are numbers. -/
def PricesFinite (market : Market) : Prop :=
  ∀ item price, market.prices.get? item = some price → price.IsFinite

/-- What the request asks to compute is too large for the format: the unit price of an item, or the
total of several units. -/
def Exceeds (market : Market) : Request → Prop
  | .price phrase _ credits =>
    ∃ numeral, market.vocabulary.numeralOf phrase = .ok numeral ∧
      Decimal.overflowBound ≤ (digitsValue credits : ℚ) / numeral.value
  | .cost phrase item =>
    ∃ numeral unitPrice, market.vocabulary.numeralOf phrase = .ok numeral ∧
      market.prices.get? item = some unitPrice ∧
      Decimal.overflowBound ≤ |numeral.value * unitPrice.toRat|
  | .teach _ _ | .number _ => False

/-- The line makes a request that is too large for the format. -/
def Overflows (forms : List Form) (market : Market) (line : Text) : Prop :=
  ∃ request, Request.ofLine? forms line = some request ∧ market.Exceeds request

/-- No line overflows when the lines are said one after another. -/
def WithinLimits (forms : List Form) : Market → List Text → Prop
  | _, [] => True
  | market, line :: rest =>
    ¬ market.Overflows forms line ∧ WithinLimits forms (market.ask forms line).2 rest

variable {forms : List Form} {market next : Market} {line : Text} {lines before rest : List Text}
  {fault : Decimal.Fault}

/-! ## One line -/

theorem Learns.pricesFinite (h : Learns forms market line next) (hfinite : market.PricesFinite) :
    next.PricesFinite := by
  cases h with
  | word hline hword hdigit => exact hfinite
  | price hline hnumeral hvalue hquotient hitem =>
    intro other price hprice
    rw [Table.get?_insert] at hprice
    split at hprice
    · cases hprice
      exact (Decimal.quotient_rounding hquotient).amount.isFinite
    · exact hfinite other price hprice

theorem PricesFinite.after (hfinite : market.PricesFinite) (forms : List Form)
    (lines : List Text) : (market.after forms lines).PricesFinite :=
  after_induction forms (fun h hlearns => hlearns.pricesFinite h) hfinite lines

theorem teach_ne_failed (market : Market) (word digit : Text) :
    (market.teach word digit).1 ≠ .failed fault := by
  unfold teach
  split
  · simp
  · split <;> simp

theorem setPrice_failed_iff (market : Market) (line phrase item credits : Text) :
    (market.setPrice line phrase item credits).1 = .failed fault ↔
      fault = .overflow ∧ market.Exceeds (.price phrase item credits) := by
  cases hnumeral : market.vocabulary.numeralOf phrase with
  | error refusal => simp [setPrice, Exceeds, hnumeral]
  | ok numeral =>
    have hpos : 0 < numeral.value := numeral.value_bounds.1
    have hexceeds : market.Exceeds (.price phrase item credits) ↔
        Decimal.overflowBound ≤ (digitsValue credits : ℚ) / numeral.value := by
      simp [Exceeds, hnumeral]
    rw [hexceeds, ← Decimal.quotient_eq_error_iff hpos]
    simp only [setPrice, hnumeral, if_neg hpos.ne']
    cases Decimal.quotient (digitsValue credits) numeral.value with
    | error other => simp
    | ok unitPrice =>
      dsimp only
      split <;> simp

theorem tellNumber_ne_failed (market : Market) (phrase : Text) :
    market.tellNumber phrase ≠ .failed fault := by
  unfold tellNumber
  split <;> simp

theorem tellCost_failed_iff (hfinite : market.PricesFinite) (phrase item : Text) :
    market.tellCost phrase item = .failed fault ↔
      fault = .overflow ∧ market.Exceeds (.cost phrase item) := by
  cases hnumeral : market.vocabulary.numeralOf phrase with
  | error refusal => simp [tellCost, Exceeds, hnumeral]
  | ok numeral =>
    cases hprice : market.prices.get? item with
    | none => simp [tellCost, Exceeds, hnumeral, hprice]
    | some unitPrice =>
      have hexceeds : market.Exceeds (.cost phrase item) ↔
          Decimal.overflowBound ≤ |numeral.value * unitPrice.toRat| := by
        simp [Exceeds, hnumeral, hprice]
      rw [hexceeds, ← Decimal.times_eq_error_iff (hfinite item unitPrice hprice)]
      simp only [tellCost, hnumeral, hprice]
      cases unitPrice.times numeral.value with
      | error other => simp
      | ok total => simp

/-- **The arithmetic of a line fails only by overflow**: each line is learned, replied to or refused
unless what it asks to compute is too large for the format. -/
theorem ask_failed_iff (hfinite : market.PricesFinite) :
    (market.ask forms line).1 = .failed fault ↔
      fault = .overflow ∧ market.Overflows forms line := by
  unfold ask Overflows
  cases Request.ofLine? forms line with
  | none => simp
  | some request =>
    simp only [Option.some.injEq, exists_eq_left']
    cases request with
    | teach word digit => simp [fulfil, teach_ne_failed, Exceeds]
    | price phrase item credits => exact market.setPrice_failed_iff line phrase item credits
    | number phrase => simp [fulfil, tellNumber_ne_failed, Exceeds]
    | cost phrase item => exact tellCost_failed_iff hfinite phrase item

/-! ## All lines -/

theorem turn_fault?_eq_none (hfinite : market.PricesFinite)
    (hwithin : ¬ market.Overflows forms line) : (market.turn forms line).1.fault? = none := by
  unfold turn Turn.fault?
  dsimp only
  split
  · rename_i fault hfault
    exact absurd ((ask_failed_iff hfinite).1 hfault).2 hwithin
  · rfl

/-- **Lines that do not overflow get a turn each**, and later lines are said to the market after
them. -/
theorem converse_append (hfinite : market.PricesFinite) (h : market.WithinLimits forms before) :
    ∃ turns, turns.map Turn.line = before ∧ (∀ turn ∈ turns, turn.fault? = none) ∧
      ∀ rest, market.converse forms (before ++ rest) =
        turns ++ (market.after forms before).converse forms rest := by
  induction before generalizing market with
  | nil => exact ⟨[], rfl, by simp, fun _ => rfl⟩
  | cons line before ih =>
    obtain ⟨hline, hlater⟩ := h
    have hnext : (market.ask forms line).2.PricesFinite := hfinite.after forms [line]
    obtain ⟨turns, hlines, hturns, hsplit⟩ := ih hnext hlater
    have hturn := turn_fault?_eq_none hfinite hline
    refine ⟨(market.turn forms line).1 :: turns, by rw [List.map_cons, hlines]; rfl, ?_, ?_⟩
    · rintro turn hmem
      rcases List.mem_cons.1 hmem with rfl | hmem
      · exact hturn
      · exact hturns turn hmem
    · intro rest
      rw [List.cons_append, converse, after_cons, List.cons_append, ← hsplit rest]
      simp only [hturn]
      rfl

theorem endingAfter_append {turns later : List Turn} (h : ∀ turn ∈ turns, turn.fault? = none)
    (ending : Ending) : endingAfter (turns ++ later) ending = endingAfter later ending := by
  unfold endingAfter
  rw [List.findSome?_append, List.findSome?_eq_none_iff.2 h, Option.none_or]

/-- Lines that do not overflow are all answered. -/
theorem converse_of_withinLimits (hfinite : market.PricesFinite)
    (h : market.WithinLimits forms lines) :
    (market.converse forms lines).map Turn.line = lines ∧
      ∀ ending, endingAfter (market.converse forms lines) ending = ending := by
  obtain ⟨turns, hlines, hturns, hsplit⟩ := converse_append hfinite h
  have hall : market.converse forms lines = turns ++ [] := by
    have hnil := hsplit []
    rwa [List.append_nil] at hnil
  rw [hall]
  exact ⟨by rw [List.append_nil, hlines], fun ending => endingAfter_append hturns ending⟩

/-- The first line that overflows is the last one with a turn. -/
theorem converse_of_overflows (hfinite : market.PricesFinite)
    (h : market.WithinLimits forms before) (hline : (market.after forms before).Overflows forms line)
    (rest : List Text) :
    (market.converse forms (before ++ line :: rest)).map Turn.line = before ++ [line] ∧
      ∀ ending, endingAfter (market.converse forms (before ++ line :: rest)) ending =
        .crash (.arithmetic .overflow) := by
  obtain ⟨turns, hlines, hturns, hsplit⟩ := converse_append hfinite h
  have hfailed := (ask_failed_iff (hfinite.after forms before)).2 ⟨rfl, hline⟩
  have hfault : ((market.after forms before).turn forms line).1.fault? = some .overflow := by
    simp [turn, Turn.fault?, hfailed]
  have hlast : (market.after forms before).converse forms (line :: rest) =
      [((market.after forms before).turn forms line).1] := by
    rw [converse]
    simp only [hfault]
    rfl
  rw [hsplit, hlast]
  refine ⟨by rw [List.map_append, hlines]; rfl, fun ending => ?_⟩
  rw [endingAfter_append hturns]
  simp [endingAfter, hfault]

/-- **Lines are answered up to the first one that overflows.**  From an opening over any vocabulary
and any prices that are numbers, each line is learned, replied to or refused, unless what it asks to
compute is too large for the format.  If no line is of this kind, all are answered and the run ends
as it would have; the first one that is breaks the run off, and nothing after it is answered. -/
theorem answers_unless_overflow (forms : List Form) (vocabulary : Vocabulary) (prices : PriceList)
    (hprices : ∀ item price, prices.get? item = some price → price.IsFinite) (lines : List Text) :
    (∀ line fault, (((opening vocabulary prices).after forms lines).ask forms line).1 =
        .failed fault ↔
      fault = .overflow ∧ ((opening vocabulary prices).after forms lines).Overflows forms line) ∧
    ((opening vocabulary prices).WithinLimits forms lines →
      ((opening vocabulary prices).converse forms lines).map Turn.line = lines ∧
        ∀ ending, endingAfter ((opening vocabulary prices).converse forms lines) ending = ending) ∧
    ∀ before line rest, lines = before ++ line :: rest →
      (opening vocabulary prices).WithinLimits forms before →
      ((opening vocabulary prices).after forms before).Overflows forms line →
      ((opening vocabulary prices).converse forms lines).map Turn.line = before ++ [line] ∧
        ∀ ending, endingAfter ((opening vocabulary prices).converse forms lines) ending =
          .crash (.arithmetic .overflow) := by
  have hopening : (opening vocabulary prices).PricesFinite := hprices
  refine ⟨fun line fault => ask_failed_iff (hopening.after forms lines),
    converse_of_withinLimits hopening, ?_⟩
  rintro before line rest rfl hbefore hline
  exact converse_of_overflows hopening hbefore hline rest

/-- A vocabulary with the digit one. -/
def oneDigit : Vocabulary := Table.ofList [("glob".toList, some "I".toList)]

/-- A price that is in the format while its double is not. -/
def dearSilver : PriceList := Table.ofList [("Silver".toList, .finite false 9 999999)]

/-- A question that can be answered at any price. -/
def modestQuestion : Text := "how much is glob glob?".toList

/-- The question for the double of the price. -/
def dearQuestion : Text := "how many credits is glob glob Silver?".toList

theorem dearSilver_finite (item : Text) (price : Decimal) (h : dearSilver.get? item = some price) :
    price.IsFinite := by
  have hentries : dearSilver.entries = [("Silver".toList, .finite false 9 999999)] := rfl
  have hmem := Table.mem_entries_iff.2 h
  rw [hentries, List.mem_singleton] at hmem
  rw [(Prod.mk.inj hmem).2]
  exact ⟨false, 9, 999999, rfl⟩

theorem dearQuestion_failed :
    ((opening oneDigit dearSilver).ask Form.all dearQuestion).1 = .failed .overflow := by
  decide +kernel

/-- The question for the double is the last line that is said. -/
theorem answers_unless_overflow_dearSilver :
    (∀ item price, dearSilver.get? item = some price → price.IsFinite) ∧
      (opening oneDigit dearSilver).WithinLimits Form.all [modestQuestion] ∧
      ((opening oneDigit dearSilver).after Form.all [modestQuestion]).Overflows Form.all
        dearQuestion ∧
      ((opening oneDigit dearSilver).converse Form.all
        [modestQuestion, dearQuestion, modestQuestion]).map Turn.line =
          [modestQuestion, dearQuestion] ∧
      endingAfter ((opening oneDigit dearSilver).converse Form.all
        [modestQuestion, dearQuestion, modestQuestion]) (.exit 0) =
          .crash (.arithmetic .overflow) := by
  have hfinite : (opening oneDigit dearSilver).PricesFinite := dearSilver_finite
  have hmodest : ((opening oneDigit dearSilver).ask Form.all modestQuestion).1 ≠
      .failed .overflow := by
    decide +kernel
  have hsame : (opening oneDigit dearSilver).after Form.all [modestQuestion] =
      opening oneDigit dearSilver := by
    decide +kernel
  have hwithin : (opening oneDigit dearSilver).WithinLimits Form.all [modestQuestion] :=
    ⟨fun hline => hmodest ((ask_failed_iff hfinite).2 ⟨rfl, hline⟩), trivial⟩
  have hdear : ((opening oneDigit dearSilver).after Form.all [modestQuestion]).Overflows Form.all
      dearQuestion := by
    rw [hsame]
    exact ((ask_failed_iff hfinite).1 dearQuestion_failed).2
  obtain ⟨-, -, hstops⟩ := answers_unless_overflow Form.all oneDigit dearSilver dearSilver_finite
    [modestQuestion, dearQuestion, modestQuestion]
  obtain ⟨hlines, hending⟩ := hstops [modestQuestion] dearQuestion [modestQuestion] rfl hwithin hdear
  exact ⟨dearSilver_finite, hwithin, hdear, hlines, hending _⟩

/-- Not every line is learned, replied to or refused, even where all prices are numbers. -/
theorem not_always_answered : ¬ ∀ (vocabulary : Vocabulary) (prices : PriceList),
    (∀ item price, prices.get? item = some price → price.IsFinite) →
      ∀ lines line fault,
        (((opening vocabulary prices).after Form.all lines).ask Form.all line).1 ≠
          .failed fault := by
  intro halways
  exact halways oneDigit dearSilver dearSilver_finite [] dearQuestion .overflow dearQuestion_failed

/-! ## Lines that are not long -/

/-- The prices are amounts of at most so many digits before the point. -/
def PricesAtMost (digits : ℕ) (market : Market) : Prop :=
  ∀ item price, market.prices.get? item = some price → price.IsAmount ∧ price.toRat ≤ 10 ^ digits

variable {digits : ℕ}

theorem PricesAtMost.finite (h : market.PricesAtMost digits) : market.PricesFinite :=
  fun item price hprice => (h item price hprice).1.isFinite

theorem digitsValue_le_of_price {phrase item credits : Text}
    (hline : Request.ofLine? forms line = some (.price phrase item credits))
    (hlength : line.length ≤ digits) : (digitsValue credits : ℚ) ≤ 10 ^ digits := by
  have hcredits : credits.length ≤ line.length :=
    Request.field_length_le hline ("credits".toList, credits) (by simp [Request.fields])
  have hlt : digitsValue credits < 10 ^ digits :=
    (digitsValue_lt credits).trans_le (Nat.pow_le_pow_right (by decide) (hcredits.trans hlength))
  exact_mod_cast hlt.le

/-- A unit price is not more than the credits that the line names. -/
theorem Learns.pricesAtMost (h : Learns forms market line next) (hlength : line.length ≤ digits)
    (hprices : market.PricesAtMost digits) : next.PricesAtMost digits := by
  cases h with
  | word hline hword hdigit => exact hprices
  | @price phrase item credits numeral unitPrice hline hnumeral hvalue hquotient hitem =>
    intro other price hprice
    rw [Table.get?_insert] at hprice
    split at hprice
    · cases hprice
      have hrounding := Decimal.quotient_rounding hquotient
      refine ⟨hrounding.amount, hrounding.toRat_le ?_⟩
      have hone : (1 : ℚ) ≤ numeral.value := by exact_mod_cast numeral.value_bounds.1
      exact (div_le_self (by positivity) hone).trans (digitsValue_le_of_price hline hlength)
    · exact hprices other price hprice

/-- No total is more than 3999 times the greatest price. -/
theorem PricesAtMost.not_overflows (hprices : market.PricesAtMost digits)
    (hlength : line.length ≤ digits) (hdigits : (digits : ℤ) + 4 ≤ Decimal.maxExponent) :
    ¬ market.Overflows forms line := by
  have hbound : (10 : ℚ) ^ (digits + 4) < Decimal.overflowBound :=
    Decimal.pow_lt_overflowBound (by exact_mod_cast hdigits)
  have hsplit : (10 : ℚ) ^ (digits + 4) = 10 ^ 4 * 10 ^ digits := by rw [pow_add, mul_comm]
  rintro ⟨request, hline, hexceeds⟩
  cases request with
  | teach word digit => exact hexceeds
  | number phrase => exact hexceeds
  | price phrase item credits =>
    obtain ⟨numeral, -, hlarge⟩ := hexceeds
    have hone : (1 : ℚ) ≤ numeral.value := by exact_mod_cast numeral.value_bounds.1
    have hpower : (0 : ℚ) < 10 ^ digits := by positivity
    have hquotient : (digitsValue credits : ℚ) / numeral.value ≤ 10 ^ digits :=
      (div_le_self (by positivity) hone).trans (digitsValue_le_of_price hline hlength)
    linarith
  | cost phrase item =>
    obtain ⟨numeral, unitPrice, -, hprice, hlarge⟩ := hexceeds
    obtain ⟨⟨coefficient, exponent, rfl, -⟩, hmost⟩ := hprices item unitPrice hprice
    have hvalue : (numeral.value : ℚ) ≤ 10 ^ 4 := by
      exact_mod_cast numeral.value_bounds.2.trans (by decide)
    rw [Decimal.toRat_finite] at hmost
    have htotal : |(numeral.value : ℚ) * (Decimal.finite false coefficient exponent).toRat| ≤
        10 ^ 4 * 10 ^ digits := by
      rw [abs_mul, Nat.abs_cast, Decimal.abs_toRat_finite]
      gcongr
    linarith

theorem withinLimits_of_pricesAtMost (hprices : market.PricesAtMost digits)
    (hlengths : ∀ line ∈ lines, line.length ≤ digits)
    (hdigits : (digits : ℤ) + 4 ≤ Decimal.maxExponent) : market.WithinLimits forms lines := by
  induction lines generalizing market with
  | nil => trivial
  | cons line lines ih =>
    have hline := hlengths line List.mem_cons_self
    refine ⟨hprices.not_overflows hline hdigits,
      ih ?_ fun later hlater => hlengths later (List.mem_cons_of_mem _ hlater)⟩
    rcases ask_cases forms market line with ⟨-, hsame⟩ | ⟨-, hlearns⟩
    · rw [hsame]
      exact hprices
    · exact hlearns.pricesAtMost hline hprices

/-- **From nothing, lines that are not long are all answered**: none of at most 999995 characters
overflows. -/
theorem converse_of_short (forms : List Form) {lines : List Text}
    (hlengths : ∀ line ∈ lines, line.length ≤ 999995) :
    (Market.empty.converse forms lines).map Turn.line = lines ∧
      ∀ ending, endingAfter (Market.empty.converse forms lines) ending = ending := by
  have hprices : Market.empty.PricesAtMost 999995 := fun item price hprice => by cases hprice
  exact converse_of_withinLimits hprices.finite
    (withinLimits_of_pricesAtMost hprices hlengths (by decide))

end Market

end Tradespeak
