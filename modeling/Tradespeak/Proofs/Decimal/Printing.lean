import Tradespeak.Proofs.Decimal.Rounding
import Tradespeak.Market

/-!
# How prices are written

* `IsDigits` — digits and nothing else.
* `IsPlain` — digits and points, so that there is neither a sign nor an exponent.
* `Decimal.isPlain_withPoint` — putting a point into digits keeps them plain.

Principal result: `Market.creditsText_isPlain` — amounts are written without a sign and without an
exponent.
-/

set_option autoImplicit false

namespace Tradespeak

/-- The text has no characters but digits. -/
def IsDigits (s : Text) : Prop := ∀ c ∈ s, c.isDigit = true

/-- The text has no characters but digits and points. -/
def IsPlain (s : Text) : Prop := ∀ c ∈ s, c.isDigit = true ∨ c = '.'

variable {s t : Text}

theorem isDigits_append : IsDigits (s ++ t) ↔ IsDigits s ∧ IsDigits t := by
  simp only [IsDigits, List.mem_append, or_imp, forall_and]

theorem isDigits_zeros (n : ℕ) : IsDigits (List.replicate n '0') := by
  intro c hc
  rw [List.eq_of_mem_replicate hc]
  decide

theorem isDigits_ofNat (n : ℕ) : IsDigits (Text.ofNat n) := by
  intro c hc
  rw [Text.ofNat, Nat.toList_repr] at hc
  exact Nat.isDigit_of_mem_toDigits (by decide) (by decide) hc

theorem IsDigits.isPlain (h : IsDigits s) : IsPlain s := fun c hc => Or.inl (h c hc)

theorem isPlain_append : IsPlain (s ++ t) ↔ IsPlain s ∧ IsPlain t := by
  simp only [IsPlain, List.mem_append, or_imp, forall_and]

theorem isPlain_zeros (n : ℕ) : IsPlain (List.replicate n '0') := (isDigits_zeros n).isPlain

theorem isPlain_ofNat (n : ℕ) : IsPlain (Text.ofNat n) := (isDigits_ofNat n).isPlain

namespace Decimal

theorem isPlain_withPoint (hs : IsPlain s) (place : ℤ) : IsPlain (withPoint s place) := by
  have hpoint : IsPlain ['.'] := by simp [IsPlain]
  unfold withPoint
  split
  · have hzero : IsPlain ['0', '.'] := by simp [IsPlain]
    exact isPlain_append.2 ⟨isPlain_append.2 ⟨hzero, isPlain_zeros _⟩, hs⟩
  split
  · exact isPlain_append.2 ⟨hs, isPlain_zeros _⟩
  · refine isPlain_append.2 ⟨fun c hc => hs c (List.mem_of_mem_take hc), ?_⟩
    rw [← List.singleton_append, isPlain_append]
    exact ⟨hpoint, fun c hc => hs c (List.mem_of_mem_drop hc)⟩

theorem isPlain_plain (coefficient : ℕ) (exponent : ℤ) :
    IsPlain (finite false coefficient exponent).plain :=
  isPlain_withPoint (isPlain_ofNat coefficient) _

end Decimal

/-- **Amounts are written without a sign and without an exponent.** -/
theorem Market.creditsText_isPlain {d : Decimal} (hd : d.IsAmount) :
    IsPlain (Market.creditsText d) := by
  obtain ⟨coefficient, exponent, rfl, -⟩ := hd
  rw [creditsText, Decimal.reduce]
  split <;> exact Decimal.isPlain_plain _ _

end Tradespeak
