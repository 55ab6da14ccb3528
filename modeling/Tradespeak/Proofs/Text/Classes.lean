import Tradespeak.Text.Blank
import Tradespeak.Text.DecimalDigit

/-!
# Classes of characters that do not meet

* `covers_apart` — no character lies in two tables if no range of the one meets one of the other.
* `isBlank_of_isUpper`, `isLower_of_isUpper` — an upper-case letter is neither a blank nor a
  lower-case letter.
* `isBlank_of_isDecimalDigit` — a decimal digit is no blank.
-/

set_option autoImplicit false

namespace Tradespeak

variable {c : Char}

/-- No character lies in two tables of which no two ranges meet. -/
theorem covers_apart {first second : List (Nat × Nat)}
    (hapart : ∀ r ∈ first, ∀ r' ∈ second, r.2 < r'.1 ∨ r'.2 < r.1)
    (hc : covers first c = true) : covers second c = false := by
  rw [← Bool.not_eq_true]
  intro hc'
  obtain ⟨r, hr, hin⟩ := List.any_eq_true.1 hc
  obtain ⟨r', hr', hin'⟩ := List.any_eq_true.1 hc'
  simp only [Bool.and_eq_true, decide_eq_true_eq] at hin hin'
  have := hapart r hr r' hr'
  omega

theorem isBlank_of_isDecimalDigit (hc : isDecimalDigit c = true) : isBlank c = false :=
  covers_apart (by decide +kernel) hc

theorem upper_bounds (hc : isUpper c = true) : 65 ≤ c.toNat ∧ c.toNat ≤ 90 := by
  rw [isUpper, Bool.and_eq_true, decide_eq_true_iff, decide_eq_true_iff] at hc
  exact hc

theorem isBlank_of_isUpper (hc : isUpper c = true) : isBlank c = false := by
  have hrange : covers [(65, 90)] c = true := by
    simpa [covers] using upper_bounds hc
  exact covers_apart (by decide) hrange

theorem isLower_of_isUpper (hc : isUpper c = true) : isLower c = false := by
  have hbounds := upper_bounds hc
  rw [← Bool.not_eq_true]
  intro hlower
  rw [isLower, Bool.and_eq_true, decide_eq_true_iff] at hlower
  have : 97 ≤ c.toNat := hlower.1
  omega

end Tradespeak
