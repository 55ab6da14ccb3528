import Tradespeak.Proofs.Market.Step
import Tradespeak.Proofs.Request.Fields

/-!
# Markets that are reached

* `after` — the market after lines said one after another, whatever their outcomes; `history` — the
  outcomes of the lines, each with the market after it.
* `TakenKnown` — the taken digits are those of the words; `OneWordEach` — no two words have one
  digit; `IsDialect` — words are runs of letters and have single Roman digits.
* `Learns.takenKnown`, `Learns.oneWordEach`, `Learns.isDialect` — each is kept by a line that is
  accepted.
* `after_induction` — what every accepted line keeps holds after all lines.

Principal result: `sound_after` — all three hold in every market that is reached from the empty one.
-/

set_option autoImplicit false

namespace Tradespeak

namespace Market

/-- The market after lines said one after another. -/
def after (forms : List Form) (market : Market) (lines : List Text) : Market :=
  lines.foldl (fun market line => (market.ask forms line).2) market

/-- The outcomes of lines said one after another, each with the market after it. -/
def history (forms : List Form) : Market → List Text → List (Outcome × Market)
  | _, [] => []
  | market, line :: rest => market.ask forms line :: history forms (market.ask forms line).2 rest

/-- The taken digits are those of the words. -/
def TakenKnown (market : Market) : Prop :=
  ∀ digit, digit ∈ market.taken ↔ ∃ word, market.vocabulary.get? word = some digit

/-- No two words have one digit. -/
def OneWordEach (market : Market) : Prop :=
  ∀ v w digit, market.vocabulary.get? v = some digit → market.vocabulary.get? w = some digit → v = w

/-- The words are runs of lower-case letters and stand for single Roman digits. -/
def IsDialect (market : Market) : Prop :=
  ∀ word digit, market.vocabulary.get? word = some digit →
    IsRun isLower word ∧ ∃ c, Pattern.isRomanDigit c = true ∧ digit = some [c]

/-- What holds of a market that began empty. -/
structure Sound (market : Market) : Prop where
  takenKnown : market.TakenKnown
  oneWordEach : market.OneWordEach
  isDialect : market.IsDialect

variable {forms : List Form} {market next : Market} {line word digit : Text}

/-! ## One line -/

theorem GainsWord.takenKnown (h : GainsWord market next word digit) (hknown : market.TakenKnown) :
    next.TakenKnown := by
  intro d
  rw [h.taken, hknown d]
  constructor
  · rintro (rfl | ⟨w, hw⟩)
    · exact ⟨word, by rw [h.words, if_pos rfl]⟩
    · exact ⟨w, h.extends.words w d hw⟩
  · rintro ⟨w, hw⟩
    rw [h.words] at hw
    split at hw
    · cases hw; exact Or.inl rfl
    · exact Or.inr ⟨w, hw⟩

/-- The digit of the new word was free, so that no other word has it. -/
theorem GainsWord.oneWordEach (h : GainsWord market next word digit) (hknown : market.TakenKnown)
    (hone : market.OneWordEach) : next.OneWordEach := by
  have hother : ∀ w, market.vocabulary.get? w ≠ some (some digit) :=
    fun w hw => h.free ((hknown _).2 ⟨w, hw⟩)
  intro v w d hv hw
  rw [h.words] at hv hw
  by_cases hvword : v = word
  · by_cases hwword : w = word
    · rw [hvword, hwword]
    · rw [if_pos hvword] at hv
      rw [if_neg hwword, ← hv] at hw
      exact absurd hw (hother w)
  · rw [if_neg hvword] at hv
    by_cases hwword : w = word
    · rw [if_pos hwword] at hw
      rw [← hw] at hv
      exact absurd hv (hother v)
    · rw [if_neg hwword] at hw
      exact hone v w d hv hw

theorem GainsWord.isDialect (h : GainsWord market next word digit) (hword : IsRun isLower word)
    (hdigit : ∃ c, Pattern.isRomanDigit c = true ∧ digit = [c]) (hdialect : market.IsDialect) :
    next.IsDialect := by
  intro w d hw
  rw [h.words] at hw
  split at hw
  · rename_i hwword
    subst hwword
    cases hw
    obtain ⟨c, hc, rfl⟩ := hdigit
    exact ⟨hword, c, hc, rfl⟩
  · exact hdialect w d hw

theorem Learns.takenKnown (h : Learns forms market line next) (hknown : market.TakenKnown) :
    next.TakenKnown := by
  rcases h.gains with ⟨word, digit, -, hw⟩ | ⟨_, item, _, price, -, hp⟩
  · exact hw.takenKnown hknown
  · unfold TakenKnown
    rwa [hp.words, hp.taken]

theorem Learns.oneWordEach (h : Learns forms market line next) (hknown : market.TakenKnown)
    (hone : market.OneWordEach) : next.OneWordEach := by
  rcases h.gains with ⟨word, digit, -, hw⟩ | ⟨_, item, _, price, -, hp⟩
  · exact hw.oneWordEach hknown hone
  · unfold OneWordEach
    rwa [hp.words]

theorem Learns.isDialect (h : Learns forms market line next) (hdialect : market.IsDialect) :
    next.IsDialect := by
  rcases h.gains with ⟨word, digit, hline, hw⟩ | ⟨_, item, _, price, -, hp⟩
  · obtain ⟨hword, hdigit⟩ := Request.teach_fields hline
    exact hw.isDialect hword hdigit hdialect
  · unfold IsDialect
    rwa [hp.words]

theorem Sound.learns (h : market.Sound) (hlearns : Learns forms market line next) : next.Sound :=
  ⟨hlearns.takenKnown h.takenKnown, hlearns.oneWordEach h.takenKnown h.oneWordEach,
    hlearns.isDialect h.isDialect⟩

/-! ## All lines -/

@[simp] theorem after_nil (forms : List Form) (market : Market) : market.after forms [] = market :=
  rfl

@[simp] theorem after_cons (forms : List Form) (market : Market) (line : Text) (lines : List Text) :
    market.after forms (line :: lines) = (market.ask forms line).2.after forms lines :=
  rfl

theorem after_append (forms : List Form) (market : Market) (lines more : List Text) :
    market.after forms (lines ++ more) = (market.after forms lines).after forms more :=
  List.foldl_append

/-- **What every accepted line keeps holds after all lines**, since the others change nothing. -/
theorem after_induction {P : Market → Prop} (forms : List Form)
    (hstep : ∀ {market line next}, P market → Learns forms market line next → P next)
    (h : P market) (lines : List Text) : P (market.after forms lines) := by
  induction lines generalizing market with
  | nil => exact h
  | cons line lines ih =>
    rw [after_cons]
    rcases ask_cases forms market line with ⟨-, hsame⟩ | ⟨-, hlearns⟩
    · rw [hsame]
      exact ih h
    · exact ih (hstep h hlearns)

theorem sound_empty : Market.empty.Sound := by
  have hnone : ∀ word, Market.empty.vocabulary.get? word = none := fun _ => rfl
  refine ⟨fun d => ?_, fun v w d hv _ => ?_, fun w d hw => ?_⟩
  · constructor
    · intro hd; cases hd
    · rintro ⟨w, hw⟩
      rw [hnone] at hw
      cases hw
  · rw [hnone] at hv
    cases hv
  · rw [hnone] at hw
    cases hw

/-- **What holds of the empty market holds of every market that is reached from it**, by lines of
any kind and with any outcome. -/
theorem sound_after (forms : List Form) (lines : List Text) :
    (Market.empty.after forms lines).Sound :=
  after_induction forms Sound.learns sound_empty lines

end Market

end Tradespeak
