import Tradespeak.Proofs.Decimal.Overflow

/-!
# How far rounding goes

* `Decimal.IsShort` — the numbers with a finite decimal expansion of at most 28 significant digits.
* `Decimal.roundingUnit` — the part of a number by which it is moved at most when it is rounded.
* `Decimal.IsRounding.error_le` — the relative error of one rounding.
* `Decimal.IsRounding.eq_of_isShort` — a short number is not moved at all.

Principal results: `Decimal.two_roundings` — the error of a quotient that is rounded, taken several
times and rounded again; `Decimal.two_roundings_exact` — there is none if both results are short.
-/

set_option autoImplicit false

namespace Tradespeak

/-- The relative error of rounding to an integer is largest half a unit above a lower bound. -/
theorem IsNearest.error_le {t : ℚ} {n least : ℕ} (h : IsNearest t n) (hleast : (least : ℚ) ≤ t) :
    |n - t| ≤ 1 / (2 * least + 1) * t := by
  have hnear := h.near
  rw [abs_sub_comm] at hnear
  have hwidth : (0 : ℚ) < 2 * least + 1 := by positivity
  rw [one_div_mul_eq_div, le_div_iff₀ hwidth]
  rcases (h.ge_of_ge hleast).eq_or_lt with rfl | hlt
  · have hhalf : t - least ≤ 1 / 2 := by
      rw [abs_sub_comm] at hnear
      exact (le_abs_self _).trans hnear
    have hscaled : (least : ℚ) * (t - least) ≤ least * (1 / 2) := by gcongr
    rw [abs_sub_comm, abs_of_nonneg (by linarith)]
    linarith
  · have hn : (least : ℚ) + 1 ≤ n := by exact_mod_cast hlt
    have ht := (abs_le.1 hnear).2
    calc |n - t| * (2 * least + 1) ≤ 1 / 2 * (2 * least + 1) := by gcongr
      _ ≤ t := by linarith

theorem IsNearest.eq_of_eq {t : ℚ} {n k : ℕ} (h : IsNearest t n) (ht : t = k) : n = k :=
  le_antisymm (h.le_of_le ht.le) (h.ge_of_ge ht.ge)

namespace Decimal

variable {q : ℚ} {d : Decimal}

/-- The number has a finite decimal expansion of at most 28 significant digits. -/
def IsShort (q : ℚ) : Prop :=
  ∃ (coefficient : ℕ) (exponent : ℤ), coefficient < 10 ^ precision ∧ q = coefficient * 10 ^ exponent

/-- The part of a number by which it is moved at most when it is rounded to 28 digits. -/
def roundingUnit : ℚ := 1 / (2 * 10 ^ (precision - 1) + 1)

theorem roundingUnit_nonneg : 0 ≤ roundingUnit := by
  unfold roundingUnit
  positivity

/-- The relative error of two roundings in a row, the second one moving what the first one has moved. -/
theorem roundingUnit_twice :
    roundingUnit * (1 + roundingUnit) + roundingUnit ≤ (10 : ℚ) ^ (-27 : ℤ) := by
  rw [roundingUnit, precision]
  norm_num

/-- **The relative error of one rounding.** -/
theorem IsRounding.error_le (h : IsRounding q d) : |d.toRat - q| ≤ roundingUnit * q := by
  obtain ⟨exponent, t, n, rfl, hrange, hnearest, hd⟩ := h.nearest
  have hpower : (0 : ℚ) < 10 ^ exponent := by positivity
  have ht : |n - t| ≤ roundingUnit * t := by
    rcases hrange with rfl | ⟨hlow, -⟩
    · simp [hnearest.eq_of_eq Nat.cast_zero.symm]
    · have hleast : ((10 ^ (precision - 1) : ℕ) : ℚ) ≤ t := by exact_mod_cast hlow
      have herror := hnearest.error_le hleast
      rwa [Nat.cast_pow, Nat.cast_ofNat] at herror
  rw [hd, ← sub_mul, abs_mul, abs_of_pos hpower, ← mul_assoc]
  exact mul_le_mul_of_nonneg_right ht hpower.le

/-- A coefficient of at most 28 digits has 28 digits before the point only if none are after it. -/
theorem exponent_nonneg_of_le {coefficient : ℕ} {exponent : ℤ} (hdigits : coefficient < 10 ^ precision)
    (hlow : (10 : ℚ) ^ (precision - 1) ≤ coefficient * 10 ^ exponent) : 0 ≤ exponent := by
  by_contra hneg
  have htenth : (10 : ℚ) ^ exponent ≤ 10 ^ (-1 : ℤ) := zpow_le_zpow_right₀ (by norm_num) (by omega)
  have hlt : (coefficient : ℚ) < 10 ^ precision := by exact_mod_cast hdigits
  have hsmall : (coefficient : ℚ) * 10 ^ exponent < 10 ^ precision * 10 ^ (-1 : ℤ) :=
    mul_lt_mul hlt htenth (by positivity) (by positivity)
  rw [pow_precision_eq, zpow_neg_one, mul_inv_cancel_right₀ (by norm_num)] at hsmall
  exact absurd hlow (not_le.2 hsmall)

/-- **A short number is not moved by rounding.** -/
theorem IsRounding.eq_of_isShort (h : IsRounding q d) (hshort : IsShort q) : d.toRat = q := by
  obtain ⟨exponent, t, n, rfl, hrange, hnearest, hd⟩ := h.nearest
  obtain ⟨coefficient, place, hdigits, hq⟩ := hshort
  have hten : (10 : ℚ) ≠ 0 := by norm_num
  have hpower : (10 : ℚ) ^ exponent ≠ 0 := zpow_ne_zero _ hten
  have ht : t = coefficient * 10 ^ (place - exponent) := by
    rw [zpow_sub₀ hten, ← mul_div_assoc, ← hq, mul_div_cancel_right₀ _ hpower]
  rw [hd]
  congr 1
  rcases hrange with rfl | ⟨hlow, -⟩
  · rw [hnearest.eq_of_eq Nat.cast_zero.symm, Nat.cast_zero]
  · -- the number is whole once it has 28 digits before the point
    obtain ⟨zeros, hzeros⟩ := Int.eq_ofNat_of_zero_le (exponent_nonneg_of_le hdigits (ht ▸ hlow))
    have hwhole : t = (coefficient * 10 ^ zeros : ℕ) := by
      rw [ht, hzeros, zpow_natCast]
      norm_cast
    rw [hnearest.eq_of_eq hwhole, hwhole]

/-! ## A unit price and a total -/

variable {unitPrice total : Decimal} {credits units count : ℕ}

/-- **The error of a unit price that is taken several times.**  When the quotient of the credits by
the units is rounded, and a multiple of it is rounded again, the relative error of the total is at
most 10⁻²⁷. -/
theorem two_roundings (hunits : 0 < units) (hprice : IsRounding ((credits : ℚ) / units) unitPrice)
    (htotal : IsRounding (count * unitPrice.toRat) total) :
    |units * total.toRat - count * credits| ≤ (10 : ℚ) ^ (-27 : ℤ) * (count * credits) := by
  have hpos : (0 : ℚ) < units := by exact_mod_cast hunits
  have hunit := roundingUnit_nonneg
  have hfirst : |units * unitPrice.toRat - credits| ≤ roundingUnit * credits := by
    have hsplit : units * unitPrice.toRat - credits =
        units * (unitPrice.toRat - credits / units) := by
      rw [mul_sub, mul_div_cancel₀ _ hpos.ne']
    calc |units * unitPrice.toRat - credits| = units * |unitPrice.toRat - credits / units| := by
          rw [hsplit, abs_mul, abs_of_pos hpos]
      _ ≤ units * (roundingUnit * (credits / units)) := by gcongr; exact hprice.error_le
      _ = roundingUnit * credits := by rw [mul_left_comm, mul_div_cancel₀ _ hpos.ne']
  have hprices : units * unitPrice.toRat ≤ (1 + roundingUnit) * credits := by
    have hhigh := (abs_le.1 hfirst).2
    linarith
  have hsecond : |units * (total.toRat - count * unitPrice.toRat)| ≤
      roundingUnit * (1 + roundingUnit) * (count * credits) := by
    calc |units * (total.toRat - count * unitPrice.toRat)| =
          units * |total.toRat - count * unitPrice.toRat| := by rw [abs_mul, abs_of_pos hpos]
      _ ≤ units * (roundingUnit * (count * unitPrice.toRat)) := by gcongr; exact htotal.error_le
      _ = roundingUnit * count * (units * unitPrice.toRat) := by ring
      _ ≤ roundingUnit * count * ((1 + roundingUnit) * credits) := by gcongr
      _ = roundingUnit * (1 + roundingUnit) * (count * credits) := by ring
  calc |units * total.toRat - count * credits| =
        |units * (total.toRat - count * unitPrice.toRat) +
          count * (units * unitPrice.toRat - credits)| := by ring_nf
    _ ≤ |units * (total.toRat - count * unitPrice.toRat)| +
          |count * (units * unitPrice.toRat - credits)| := abs_add_le _ _
    _ ≤ roundingUnit * (1 + roundingUnit) * (count * credits) +
          count * (roundingUnit * credits) := by
        rw [abs_mul (count : ℚ), Nat.abs_cast]
        gcongr
    _ = (roundingUnit * (1 + roundingUnit) + roundingUnit) * (count * credits) := by ring
    _ ≤ (10 : ℚ) ^ (-27 : ℤ) * (count * credits) := by
        gcongr
        exact roundingUnit_twice

/-- **The total is exact** if the quotient of the credits by the units is short, and so is its
multiple. -/
theorem two_roundings_exact (hprice : IsRounding ((credits : ℚ) / units) unitPrice)
    (htotal : IsRounding (count * unitPrice.toRat) total)
    (hquotient : IsShort ((credits : ℚ) / units))
    (hmultiple : IsShort ((count : ℚ) * credits / units)) :
    total.toRat = count * credits / units := by
  rw [hprice.eq_of_isShort hquotient, ← mul_div_assoc] at htotal
  exact htotal.eq_of_isShort hmultiple

end Decimal

end Tradespeak
