import Mathlib.Data.List.Nodup
import Mathlib.Data.List.Perm.Subperm
import Tradespeak.Proofs.Decimal.Rounding
import Tradespeak.Proofs.Market.Run

/-!
# Well-formed markets

* `Vocabulary.mem_assignedDigits_iff` — the assigned digits are those that some word has.
* `IsTariff` — what is priced has the name of an item, and the prices are amounts; a line that is
  accepted keeps it (`Learns.isTariff`).
* `OneWordEach.size_le` — a dialect where no two words have one digit has at most seven words.
* `takenKnown_opening` — when a market is opened, the taken digits are those of the words.
* `WellFormed` — all that holds of what is known.

Principal result: `wellFormed_after` — every market that is reached from the empty one is well
formed, and in every market that is reached from any opening no new word gets a digit that a word
has.
-/

set_option autoImplicit false

namespace Tradespeak

/-! ## Entries and digits -/

theorem Table.mem_entries_iff {α : Type} {table : Table α} {name : Text} {value : α} :
    (name, value) ∈ table.entries ↔ table.get? name = some value := by
  rw [get?, List.lookup_eq_some_iff]
  constructor
  · intro hmem
    obtain ⟨before, after, hsplit⟩ := List.append_of_mem hmem
    refine ⟨before, after, hsplit, fun entry hentry => ?_⟩
    -- every name stands in the table only once
    have hnodup := table.nodup
    rw [hsplit, List.map_append, List.nodup_append] at hnodup
    have hne : entry.1 ≠ name :=
      hnodup.2.2 _ (List.mem_map_of_mem hentry) _ (by simp)
    simpa using hne.symm
  · rintro ⟨before, after, hsplit, -⟩
    simp [hsplit]

theorem Vocabulary.mem_digits_iff {vocabulary : Vocabulary} {digit : Digit} :
    digit ∈ vocabulary.digits ↔ ∃ word, vocabulary.get? word = some digit := by
  simp only [digits, List.mem_map, Prod.exists, exists_eq_right, Table.mem_entries_iff]

theorem Vocabulary.mem_assignedDigits_iff {vocabulary : Vocabulary} {digit : Digit} :
    digit ∈ vocabulary.assignedDigits ↔ ∃ word, vocabulary.get? word = some digit := by
  rw [assignedDigits, List.mem_eraseDups, mem_digits_iff]

namespace Market

/-- What is priced has the name of an item, and the prices are amounts. -/
def IsTariff (market : Market) : Prop :=
  ∀ item price, market.prices.get? item = some price → IsItemName item ∧ price.IsAmount

/-- **What holds of all that is known**: the words and their digits, the taken digits, the items and
their prices. -/
structure WellFormed (market : Market) : Prop where
  isDialect : market.IsDialect
  oneWordEach : market.OneWordEach
  size_le : market.vocabulary.size ≤ 7
  taken : ∀ digit, digit ∈ market.taken ↔ digit ∈ market.vocabulary.assignedDigits
  isTariff : market.IsTariff

variable {forms : List Form} {market next : Market} {line : Text}

theorem takenKnown_iff : market.TakenKnown ↔
    ∀ digit, digit ∈ market.taken ↔ digit ∈ market.vocabulary.assignedDigits := by
  simp only [TakenKnown, Vocabulary.mem_assignedDigits_iff]

/-- When a market is opened, the taken digits are those of the words. -/
theorem takenKnown_opening (vocabulary : Vocabulary) (prices : PriceList) :
    (opening vocabulary prices).TakenKnown :=
  takenKnown_iff.2 fun _ => Iff.rfl

/-! ## The number of words -/

/-- The seven digits are told apart by the words that have them. -/
theorem OneWordEach.size_le (hone : market.OneWordEach) (hdialect : market.IsDialect) :
    market.vocabulary.size ≤ 7 := by
  have hnodup : market.vocabulary.digits.Nodup := by
    apply List.Nodup.map_on _ (List.Nodup.of_map Prod.fst market.vocabulary.nodup)
    rintro ⟨v, digit⟩ hv ⟨w, digit'⟩ hw (rfl : digit = digit')
    rw [hone v w digit (Table.mem_entries_iff.1 hv) (Table.mem_entries_iff.1 hw)]
  have hroman : market.vocabulary.digits ⊆ "IVXLCDM".toList.map fun c => some [c] := by
    intro digit hdigit
    obtain ⟨word, hword⟩ := Vocabulary.mem_digits_iff.1 hdigit
    obtain ⟨-, c, hc, rfl⟩ := hdialect word digit hword
    have hmem : c ∈ "IVXLCDM".toList := by
      simpa [Pattern.isRomanDigit, or_assoc] using hc
    exact List.mem_map_of_mem hmem
  have hlength := (List.subperm_of_subset hnodup hroman).length_le
  simpa [Vocabulary.digits, Table.size] using hlength

/-! ## Items and prices -/

theorem Learns.isTariff (h : Learns forms market line next) (htariff : market.IsTariff) :
    next.IsTariff := by
  cases h with
  | word _ _ _ => exact htariff
  | @price phrase item credits numeral unitPrice hline hnumeral hvalue hquotient hitem =>
    intro other price hprice
    rw [Table.get?_insert] at hprice
    split at hprice
    · rename_i heq
      cases hprice
      exact ⟨heq ▸ Request.price_fields hline, (Decimal.quotient_rounding hquotient).amount⟩
    · exact htariff other price hprice

/-! ## Markets over any vocabulary -/

/-- A digit that a word has is not free for a new word. -/
theorem TakenKnown.new_digit (hknown : market.TakenKnown) {word other : Text} {digit : Digit}
    (hfresh : market.vocabulary.get? word = none)
    (hword : (market.ask forms line).2.vocabulary.get? word = some digit) :
    market.vocabulary.get? other ≠ some digit := by
  intro hother
  rcases ask_cases forms market line with ⟨-, hsame⟩ | ⟨-, hlearns⟩
  · rw [hsame, hfresh] at hword
    cases hword
  rcases hlearns.gains with ⟨learned, d, -, hw⟩ | ⟨_, item, _, price, -, hp⟩
  · rw [hw.words] at hword
    split at hword
    · cases hword
      exact hw.free ((hknown _).2 ⟨other, hother⟩)
    · rw [hfresh] at hword
      cases hword
  · rw [hp.words, hfresh] at hword
    cases hword

/-- **Every market that is reached from the empty one is well formed.**  From a market that is
opened over any vocabulary and any prices, the taken digits stay those of the words, no two words
have one digit if none had, and no new word gets a digit that a word has. -/
theorem wellFormed_after (forms : List Form) :
    (∀ lines, (Market.empty.after forms lines).WellFormed) ∧
      ∀ vocabulary prices lines,
        (∀ digit, digit ∈ ((opening vocabulary prices).after forms lines).taken ↔
          digit ∈ ((opening vocabulary prices).after forms lines).vocabulary.assignedDigits) ∧
        ((opening vocabulary prices).OneWordEach →
          ((opening vocabulary prices).after forms lines).OneWordEach) ∧
        ∀ line word digit,
          ((opening vocabulary prices).after forms lines).vocabulary.get? word = none →
          ((opening vocabulary prices).after forms (lines ++ [line])).vocabulary.get? word =
            some digit →
          ∀ other, ((opening vocabulary prices).after forms lines).vocabulary.get? other ≠
            some digit := by
  constructor
  · intro lines
    have hsound := sound_after forms lines
    have htariff : Market.empty.IsTariff := fun item price hprice => by cases hprice
    exact ⟨hsound.isDialect, hsound.oneWordEach, hsound.oneWordEach.size_le hsound.isDialect,
      takenKnown_iff.1 hsound.takenKnown,
      after_induction forms (fun h hlearns => hlearns.isTariff h) htariff lines⟩
  · intro vocabulary prices lines
    have hopening := takenKnown_opening vocabulary prices
    have hknown := after_induction forms (fun h hlearns => hlearns.takenKnown h) hopening lines
    refine ⟨takenKnown_iff.1 hknown, fun hone => ?_, ?_⟩
    · -- no two words have one digit as long as the taken digits are those of the words
      have hboth := after_induction (P := fun market => market.TakenKnown ∧ market.OneWordEach)
        forms (fun h hlearns => ⟨hlearns.takenKnown h.1, hlearns.oneWordEach h.1 h.2⟩)
        ⟨hopening, hone⟩ lines
      exact hboth.2
    · intro line word digit hfresh hword other
      rw [after_append] at hword
      exact hknown.new_digit hfresh hword

/-- A vocabulary where a word has a digit that is no Roman one. -/
def prebuilt : Vocabulary := Table.ofList [("glob".toList, some "IV".toList)]

/-- Over a vocabulary that no line could have taught, a new word still gets a digit of its own. -/
theorem wellFormed_after_prebuilt :
    (opening prebuilt Table.empty).OneWordEach ∧
      ((opening prebuilt Table.empty).after Form.all ["zug is C".toList]).OneWordEach ∧
      ((opening prebuilt Table.empty).after Form.all ["zug is C".toList]).vocabulary.get?
        "prok".toList = none ∧
      ((opening prebuilt Table.empty).after Form.all
        (["zug is C".toList] ++ ["prok is V".toList])).vocabulary.get? "prok".toList =
          some (some "V".toList) ∧
      ∀ other, ((opening prebuilt Table.empty).after Form.all
        ["zug is C".toList]).vocabulary.get? other ≠ some (some "V".toList) := by
  have hone : (opening prebuilt Table.empty).OneWordEach := by
    intro v w digit hv hw
    have hentry : ∀ word digit, (opening prebuilt Table.empty).vocabulary.get? word = some digit →
        word = "glob".toList := by
      intro word digit hword
      have hmem := Table.mem_entries_iff.2 hword
      have hentries : (opening prebuilt Table.empty).vocabulary.entries =
          [("glob".toList, some "IV".toList)] := rfl
      rw [hentries, List.mem_singleton] at hmem
      exact (Prod.mk.inj hmem).1
    rw [hentry v digit hv, hentry w digit hw]
  have hfresh : ((opening prebuilt Table.empty).after Form.all
      ["zug is C".toList]).vocabulary.get? "prok".toList = none := by
    decide +kernel
  have hword : ((opening prebuilt Table.empty).after Form.all
      (["zug is C".toList] ++ ["prok is V".toList])).vocabulary.get? "prok".toList =
        some (some "V".toList) := by
    decide +kernel
  obtain ⟨-, hkept, hnew⟩ :=
    (wellFormed_after Form.all).2 prebuilt Table.empty ["zug is C".toList]
  exact ⟨hone, hkept hone, hfresh, hword, hnew _ _ _ hfresh hword⟩

end Market

end Tradespeak
