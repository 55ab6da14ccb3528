import Tradespeak.Proofs.Decimal.Rounding

/-!
# When a result is too large

* `Decimal.IsFinite` — the decimals that are numbers.
* `Decimal.overflowBound` — half a unit of the last place above the largest decimal of the format.
* `pow_precision_le_iff`, `IsNearest.pow_precision_le_iff` — rounding to 28 digits reaches a power of
  ten just if no more than half a unit is missing, a tie going up since the coefficient is odd.
* `Decimal.Formats.eq_overflow_iff`, `Decimal.Formats.ok_or_overflow` — a number that is brought into
  the format is too large just if it is not below the bound, and nothing else can happen to it.

Principal results: `Decimal.quotient_eq_error_iff` and `Decimal.times_eq_error_iff` — division, and
multiplication of a finite decimal, fail for no other reason than overflow, and just if the exact
result is not below the bound.
-/

set_option autoImplicit false

namespace Tradespeak

/-! ## Whole numbers near a power of ten -/

open Decimal (precision)

variable {n : ℕ} {k : ℤ} {t : ℚ}

theorem pow_precision_eq : (10 : ℚ) ^ precision = 10 ^ (precision - 1) * 10 :=
  (pow_sub_one_mul (by decide) 10).symm

theorem one_le_pow_precision : (1 : ℚ) ≤ 10 ^ (precision - 1) := one_le_pow₀ (by norm_num)

/-- A multiple of a power of ten by a coefficient of at most 28 digits is never between half a unit
below the next power of ten and this power. -/
theorem pow_precision_le_iff (hn : n < 10 ^ precision) :
    (10 : ℚ) ^ precision ≤ n * 10 ^ k ↔ (10 : ℚ) ^ precision - 1 / 2 ≤ n * 10 ^ k := by
  constructor
  · intro h
    linarith
  intro h
  have hle : (n : ℚ) + 1 ≤ 10 ^ precision := by exact_mod_cast hn
  rcases le_total k 0 with hk | hk
  · have hone : (10 : ℚ) ^ k ≤ 1 := zpow_le_one_of_nonpos₀ (by norm_num) hk
    have : (n : ℚ) * 10 ^ k ≤ n * 1 := by gcongr
    linarith
  · -- the multiple is a whole number
    obtain ⟨j, rfl⟩ := Int.eq_ofNat_of_zero_le hk
    rw [zpow_natCast] at h ⊢
    have hlt : (10 ^ precision : ℚ) < n * 10 ^ j + 1 := by linarith
    have hnat : 10 ^ precision < n * 10 ^ j + 1 := by exact_mod_cast hlt
    exact_mod_cast Nat.lt_succ_iff.1 hnat

/-- **A number of 28 digits before the point reaches the next power of ten by rounding** just if no
more than half a unit is missing.  A half goes up, since the largest coefficient is odd. -/
theorem IsNearest.pow_le_iff (h : IsNearest t n) (ht : t < 10 ^ precision) :
    10 ^ precision ≤ n ↔ (10 : ℚ) ^ precision - 1 / 2 ≤ t := by
  obtain ⟨hlow, hhigh⟩ := abs_le.1 h.near
  constructor
  · intro hn
    have : (10 : ℚ) ^ precision ≤ n := by exact_mod_cast hn
    linarith
  · intro hbound
    by_contra hlt
    have hle : n + 1 ≤ 10 ^ precision := not_le.1 hlt
    have hleq : (n : ℚ) + 1 ≤ 10 ^ precision := by exact_mod_cast hle
    -- the number is the tie below the power, and the coefficient below it is odd
    have htie : |t - n| = 1 / 2 := by
      rw [abs_of_nonneg (by linarith)]
      linarith
    have hn : (n : ℚ) + 1 = 10 ^ precision := by linarith
    have hn : n + 1 = 10 ^ precision := by exact_mod_cast hn
    have heven : Even (n + 1) := hn ▸ (Nat.even_pow.2 ⟨by decide, by decide⟩)
    exact Nat.even_add_one.1 heven (h.even htie)

/-- **Rounding keeps a number on its side of the bound**, at every exponent. -/
theorem IsNearest.pow_precision_le_iff (h : IsNearest t n) (ht : t < 10 ^ precision)
    (hlow : 10 ^ (precision - 1) ≤ t ∨ k < 0) :
    (10 : ℚ) ^ precision ≤ n * 10 ^ k ↔ (10 : ℚ) ^ precision - 1 / 2 ≤ t * 10 ^ k := by
  have hten := pow_precision_eq
  have hbig := one_le_pow_precision
  rcases lt_trichotomy k 0 with hk | rfl | hk
  · -- both are at most a tenth of the power
    have htenth : (10 : ℚ) ^ k ≤ 10 ^ (-1 : ℤ) := zpow_le_zpow_right₀ (by norm_num) (by omega)
    have htenth : (10 : ℚ) ^ k ≤ 1 / 10 := by simpa using htenth
    have hn : (n : ℚ) ≤ 10 ^ precision := by
      exact_mod_cast h.le_of_le (by exact_mod_cast ht.le)
    have hnk : (n : ℚ) * 10 ^ k ≤ 10 ^ precision * (1 / 10) := by gcongr
    have htk : t * 10 ^ k ≤ 10 ^ precision * (1 / 10) := by gcongr
    constructor <;> intro hle <;> linarith
  · rw [zpow_zero, mul_one, mul_one, ← h.pow_le_iff ht]
    exact_mod_cast Iff.rfl
  · -- both are at least ten times the power before
    have hlow : 10 ^ (precision - 1) ≤ t := hlow.resolve_right (by omega)
    have hup : (10 : ℚ) ≤ 10 ^ k := by
      calc (10 : ℚ) = 10 ^ (1 : ℤ) := (zpow_one _).symm
        _ ≤ 10 ^ k := zpow_le_zpow_right₀ (by norm_num) (by omega)
    have hn : (10 : ℚ) ^ (precision - 1) ≤ n := by
      exact_mod_cast h.ge_of_ge (by exact_mod_cast hlow)
    have hpos : 0 ≤ t := (zero_le_one.trans hbig).trans hlow
    have hnk : (10 : ℚ) ^ (precision - 1) * 10 ≤ n * 10 ^ k := by gcongr
    have htk : (10 : ℚ) ^ (precision - 1) * 10 ≤ t * 10 ^ k := by gcongr
    constructor <;> intro _ <;> linarith

namespace Decimal

/-- The decimal is a number. -/
def IsFinite (d : Decimal) : Prop :=
  ∃ negative coefficient exponent, d = finite negative coefficient exponent

/-- The smallest number that is too large for the format once it is rounded. -/
def overflowBound : ℚ := (10 ^ precision - 1 / 2) * 10 ^ (maxExponent + 1 - precision)

variable {negative : Bool} {coefficient n : ℕ} {exponent : ℤ} {t : ℚ} {d : Decimal}

theorem IsAmount.isFinite (h : d.IsAmount) : d.IsFinite := by
  obtain ⟨coefficient, exponent, rfl, -⟩ := h
  exact ⟨false, coefficient, exponent, rfl⟩

/-! ## The largest exponent -/

/-- The bound and the number are compared after both have been divided by the power of the last
place. -/
theorem overflowBound_le_iff : overflowBound ≤ t * 10 ^ exponent ↔
    (10 : ℚ) ^ precision - 1 / 2 ≤ t * 10 ^ (exponent - (maxExponent + 1 - precision)) := by
  have hpos : (0 : ℚ) < 10 ^ (maxExponent + 1 - precision) := by positivity
  rw [zpow_sub₀ (by norm_num), ← mul_div_assoc, le_div_iff₀ hpos, overflowBound]

theorem pow_maxExponent_le_iff : (10 : ℚ) ^ (maxExponent + 1) ≤ t * 10 ^ exponent ↔
    (10 : ℚ) ^ precision ≤ t * 10 ^ (exponent - (maxExponent + 1 - precision)) := by
  have hpos : (0 : ℚ) < 10 ^ (maxExponent + 1 - precision) := by positivity
  have hsplit : (10 : ℚ) ^ (maxExponent + 1) =
      10 ^ precision * 10 ^ (maxExponent + 1 - precision) := by
    rw [← zpow_natCast, ← zpow_add₀ (by norm_num), add_sub_cancel]
  rw [zpow_sub₀ (by norm_num), ← mul_div_assoc, le_div_iff₀ hpos, hsplit]

theorem overflowBound_pos : 0 < overflowBound := by
  have hbig : (1 : ℚ) ≤ 10 ^ precision := one_le_pow₀ (by norm_num)
  exact mul_pos (by linarith) (by positivity)

/-- The test whether a number is too large for the format. -/
theorem bounded_eq_overflow_iff_exponent :
    bounded negative coefficient exponent = .error .overflow ↔
      maxExponent < scientificExponent coefficient exponent := by
  unfold bounded
  split <;> simp [*]

/-- A coefficient is too large for the format just if the number reaches the power of ten beyond
it. -/
theorem bounded_eq_overflow_iff (h : 0 < coefficient ∨ exponent ≤ maxExponent) :
    bounded negative coefficient exponent = .error .overflow ↔
      (10 : ℚ) ^ (maxExponent + 1) ≤ coefficient * 10 ^ exponent := by
  rw [bounded_eq_overflow_iff_exponent, scientificExponent]
  rcases Nat.eq_zero_or_pos coefficient with rfl | hpos
  · have hexponent := h.resolve_left (lt_irrefl 0)
    have hpower : (0 : ℚ) < 10 ^ (maxExponent + 1) := by positivity
    have hdigits : digitCount 0 = 1 := by decide
    rw [Nat.cast_zero, zero_mul, hdigits]
    constructor
    · intro hlt
      omega
    · intro hle
      exact absurd hle (not_le.2 hpower)
  obtain ⟨hlow, hhigh⟩ := zpow_digitCount hpos
  have hten : (10 : ℚ) ≠ 0 := by norm_num
  constructor
  · intro hlt
    calc (10 : ℚ) ^ (maxExponent + 1) ≤ 10 ^ ((digitCount coefficient : ℤ) - 1 + exponent) :=
          zpow_le_zpow_right₀ (by norm_num) (by omega)
      _ = 10 ^ ((digitCount coefficient : ℤ) - 1) * 10 ^ exponent := zpow_add₀ hten _ _
      _ ≤ coefficient * 10 ^ exponent := by gcongr
  · intro hle
    have hlt : (10 : ℚ) ^ (maxExponent + 1) < 10 ^ ((digitCount coefficient : ℤ) + exponent) :=
      calc (10 : ℚ) ^ (maxExponent + 1) ≤ coefficient * 10 ^ exponent := hle
        _ < 10 ^ (digitCount coefficient : ℤ) * 10 ^ exponent := by gcongr
        _ = 10 ^ ((digitCount coefficient : ℤ) + exponent) := (zpow_add₀ hten _ _).symm
    have := (zpow_lt_zpow_iff_right₀ (by norm_num : (1 : ℚ) < 10)).1 hlt
    omega

/-- A coefficient of at most 28 digits is too large just if the number is not below the bound. -/
theorem bounded_eq_overflow_iff_bound (h : 0 < coefficient)
    (hdigits : coefficient < 10 ^ precision) :
    bounded negative coefficient exponent = .error .overflow ↔
      overflowBound ≤ coefficient * 10 ^ exponent := by
  rw [bounded_eq_overflow_iff (Or.inl h), pow_maxExponent_le_iff, pow_precision_le_iff hdigits,
    overflowBound_le_iff]

/-- **A coefficient that rounding gave is too large just if the number was not below the bound.** -/
theorem carried_eq_overflow_iff (h : IsNearest t n) (ht : t < 10 ^ precision)
    (hlow : 10 ^ (precision - 1) ≤ t ∨ exponent < maxExponent + 1 - precision) :
    carried negative n exponent = .error .overflow ↔ overflowBound ≤ t * 10 ^ exponent := by
  have hexact : carried negative n exponent = .error .overflow ↔
      (10 : ℚ) ^ (maxExponent + 1) ≤ n * 10 ^ exponent := by
    unfold carried
    split
    · rename_i hcarry
      have hpos : 0 < powerOfTen (precision - 1) := by decide
      have hten : powerOfTen precision = powerOfTen (precision - 1) * 10 := by decide +kernel
      rw [bounded_eq_overflow_iff (Or.inl hpos), hcarry, hten,
        zpow_add_one₀ (by norm_num) exponent, Nat.cast_mul, Nat.cast_ofNat, mul_assoc,
        mul_comm ((10 : ℚ) ^ exponent) 10]
    · apply bounded_eq_overflow_iff
      rcases hlow with hlow | hlow
      · have hn : 10 ^ (precision - 1) ≤ n := h.ge_of_ge (by exact_mod_cast hlow)
        exact Or.inl (lt_of_lt_of_le (by decide) hn)
      · have : 0 < precision := by decide
        exact Or.inr (by omega)
  rw [hexact, pow_maxExponent_le_iff, overflowBound_le_iff]
  exact h.pow_precision_le_iff ht (hlow.imp_right sub_neg.2)

theorem Formats.eq_overflow_iff {q : ℚ} {result : Except Fault Decimal}
    (h : Formats negative q result) : result = .error .overflow ↔ overflowBound ≤ q := by
  cases h with
  | exact hpos hdigits hq => rw [hq, bounded_eq_overflow_iff_bound hpos hdigits]
  | rounded hlow hhigh hnearest hq =>
    rw [hq, carried_eq_overflow_iff hnearest hhigh (Or.inl hlow)]

theorem Formats.ok_or_overflow {q : ℚ} {result : Except Fault Decimal}
    (h : Formats negative q result) : (∃ d, result = .ok d) ∨ result = .error .overflow := by
  cases h with
  | exact _ _ _ => exact bounded_cases _ _ _
  | rounded _ _ _ _ => exact carried_cases _ _ _

/-! ## Division and multiplication -/

/-- What fails by overflow or not at all fails just when it overflows. -/
theorem eq_error_iff {result : Except Fault Decimal}
    (h : (∃ d, result = .ok d) ∨ result = .error .overflow) {fault : Fault} :
    result = .error fault ↔ fault = .overflow ∧ result = .error .overflow := by
  rcases h with ⟨d, rfl⟩ | rfl
  · simp
  · simp [eq_comm]

theorem not_overflowBound_le_zero : ¬ overflowBound ≤ 0 := not_le.2 overflowBound_pos

/-- **Division fails only by overflow**, and just if the quotient is not below the bound. -/
theorem quotient_eq_error_iff {a b : ℕ} (hb : 0 < b) {fault : Fault} :
    quotient a b = .error fault ↔ fault = .overflow ∧ overflowBound ≤ (a : ℚ) / b := by
  rcases Nat.eq_zero_or_pos a with rfl | ha
  · simp [quotient, hb.ne', not_overflowBound_le_zero]
  · have hformats := quotient_formats ha hb
    rw [eq_error_iff hformats.ok_or_overflow, hformats.eq_overflow_iff]

/-- An exact result is too large just if it is not below the bound. -/
theorem fit_eq_overflow_iff (negative : Bool) : fit negative coefficient exponent = .error .overflow ↔
    overflowBound ≤ coefficient * 10 ^ exponent := by
  rcases Nat.eq_zero_or_pos coefficient with rfl | hpos
  · simp [fit, not_overflowBound_le_zero]
  rcases fit_formats negative exponent hpos with hformats | ⟨-, t, n, ht, hnearest, hq, hfit⟩
  · exact hformats.eq_overflow_iff
  · rw [hfit, hq]
    exact carried_eq_overflow_iff hnearest ht (Or.inr (by decide))

theorem abs_toRat_finite (negative : Bool) (coefficient : ℕ) (exponent : ℤ) :
    |(finite negative coefficient exponent).toRat| = coefficient * 10 ^ exponent := by
  have hpos : (0 : ℚ) < 10 ^ exponent := by positivity
  unfold toRat
  cases negative <;> simp [abs_mul, abs_of_pos hpos]

/-- **Multiplication of a finite decimal fails only by overflow**, and just if the product is not
below the bound. -/
theorem times_eq_error_iff (hd : d.IsFinite) {count : ℕ} {fault : Fault} :
    times count d = .error fault ↔ fault = .overflow ∧ overflowBound ≤ |count * d.toRat| := by
  obtain ⟨negative, coefficient, exponent, rfl⟩ := hd
  rw [times, abs_mul, abs_toRat_finite, Nat.abs_cast, ← mul_assoc, ← Nat.cast_mul,
    ← fit_eq_overflow_iff negative]
  exact eq_error_iff (fit_cases _ _ _)

/-! ## Results that stay small -/

/-- A number that does not exceed a power of ten is not rounded beyond it. -/
theorem IsRounding.toRat_le {q : ℚ} (h : IsRounding q d) {k : ℕ} (hq : q ≤ 10 ^ k) :
    d.toRat ≤ 10 ^ k := by
  obtain ⟨exponent, t, n, rfl, hrange, hnearest, hd⟩ := h.nearest
  have hpower : (0 : ℚ) < 10 ^ exponent := by positivity
  have hsplit : (10 : ℚ) ^ k = 10 ^ ((k : ℤ) - exponent) * 10 ^ exponent := by
    rw [← zpow_add₀ (by norm_num), sub_add_cancel, zpow_natCast]
  rw [hsplit] at hq ⊢
  have ht := le_of_mul_le_mul_right hq hpower
  rw [hd]
  apply mul_le_mul_of_nonneg_right _ hpower.le
  rcases le_or_gt exponent k with hle | hlt
  · obtain ⟨j, hj⟩ := Int.eq_ofNat_of_zero_le (sub_nonneg.2 hle)
    rw [hj, zpow_natCast] at ht ⊢
    exact_mod_cast hnearest.le_of_le (by exact_mod_cast ht)
  · -- no number of 28 digits is below one
    have hone : (10 : ℚ) ^ ((k : ℤ) - exponent) < 1 :=
      zpow_lt_one_of_neg₀ (by norm_num) (sub_neg.2 hlt)
    have hbig := one_le_pow_precision
    obtain rfl : t = 0 := hrange.resolve_right fun hlow => by linarith [hlow.1]
    have hn : n ≤ 0 := hnearest.le_of_le (by simp)
    rw [Nat.le_zero.1 hn, Nat.cast_zero]
    positivity

/-- A power of ten whose exponent is not the greatest one is below the bound. -/
theorem pow_lt_overflowBound {k : ℕ} (hk : k ≤ maxExponent) : (10 : ℚ) ^ k < overflowBound := by
  have hten := pow_precision_eq
  have hbig := one_le_pow_precision
  have hsplit : (10 : ℚ) ^ maxExponent =
      10 ^ (precision - 1) * 10 ^ (maxExponent + 1 - precision) := by
    rw [← zpow_natCast, ← zpow_add₀ (by norm_num)]
    rfl
  calc (10 : ℚ) ^ k = 10 ^ (k : ℤ) := (zpow_natCast _ _).symm
    _ ≤ 10 ^ maxExponent := zpow_le_zpow_right₀ (by norm_num) hk
    _ = 10 ^ (precision - 1) * 10 ^ (maxExponent + 1 - precision) := hsplit
    _ < overflowBound := mul_lt_mul_of_pos_right (by linarith) (by positivity)

end Decimal

end Tradespeak
