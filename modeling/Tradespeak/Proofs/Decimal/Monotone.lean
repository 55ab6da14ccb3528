import Tradespeak.Proofs.Decimal.RelativeError

/-!
# Rounding keeps the order

* `IsNearest.mono` — of two numbers the larger one is not rounded to a smaller integer, ties included.
* `Decimal.IsRounding.mono` — nor to a smaller decimal, whichever powers of ten their last digits have.
* `Decimal.IsRounding.lt_of_gap` — numbers that are far enough apart stay apart.

Principal results: `Decimal.totals_le` and `Decimal.totals_lt` — a total does not fall when the price of
a unit or the count grows, and it grows with the count if a unit costs anything.
-/

set_option autoImplicit false

namespace Tradespeak

/-- **Rounding to an integer keeps the order.**  It could only be inverted at a tie that both numbers
are, but one of two neighbours is odd. -/
theorem IsNearest.mono {t t' : ℚ} {n n' : ℕ} (h : IsNearest t n) (h' : IsNearest t' n')
    (ht : t ≤ t') : n ≤ n' := by
  by_contra hlt
  have hstep : n' + 1 ≤ n := not_le.1 hlt
  have hstepq : (n' : ℚ) + 1 ≤ n := by exact_mod_cast hstep
  have hlow := (abs_le.1 h.near).1
  have hhigh := (abs_le.1 h'.near).2
  have hn : n = n' + 1 := by
    apply le_antisymm _ hstep
    have hle : (n : ℚ) ≤ n' + 1 := by linarith
    exact_mod_cast hle
  have heven : Even n := by
    apply h.even
    rw [abs_of_nonpos (by linarith)]
    linarith
  have heven' : Even n' := by
    apply h'.even
    rw [abs_of_nonneg (by linarith)]
    linarith
  rw [hn] at heven
  exact Nat.even_add_one.1 heven heven'

namespace Decimal

variable {q q' : ℚ} {d d' : Decimal}

theorem IsAmount.toRat_nonneg (h : d.IsAmount) : 0 ≤ d.toRat := by
  obtain ⟨coefficient, exponent, rfl, -⟩ := h
  rw [toRat_finite]
  positivity

/-- **Rounding to 28 digits keeps the order.**  A rounded number does not pass the power of ten that
its digits end below, and so none of those with a larger exponent. -/
theorem IsRounding.mono (h : IsRounding q d) (h' : IsRounding q' d') (hq : q ≤ q') :
    d.toRat ≤ d'.toRat := by
  have hnonneg := h'.amount.toRat_nonneg
  obtain ⟨exponent, t, n, rfl, hrange, hnearest, hd⟩ := h.nearest
  obtain ⟨exponent', t', n', rfl, hrange', hnearest', hd'⟩ := h'.nearest
  have hpower : (0 : ℚ) < 10 ^ exponent := by positivity
  have hpower' : (0 : ℚ) < 10 ^ exponent' := by positivity
  rcases hrange with rfl | ⟨hlow, hhigh⟩
  · rwa [hd, hnearest.eq_of_eq Nat.cast_zero.symm, Nat.cast_zero, zero_mul]
  have ht : 0 < t := one_le_pow_precision.trans hlow |>.trans_lt' one_pos
  rcases hrange' with rfl | ⟨hlow', hhigh'⟩
  · rw [zero_mul] at hq
    exact absurd hq (not_le.2 (mul_pos ht hpower))
  have hexponent : exponent ≤ exponent' := by
    apply exponent_unique (q := t * 10 ^ exponent)
    · exact ((div_le_div_iff_of_pos_right hpower').2 hq).trans_lt (by rwa [mul_div_cancel_right₀ _ hpower'.ne'])
    · rwa [mul_div_cancel_right₀ _ hpower.ne']
  rw [hd, hd']
  rcases hexponent.eq_or_lt with rfl | hlt
  · have hle : n ≤ n' := hnearest.mono hnearest' (le_of_mul_le_mul_right hq hpower)
    gcongr
  · have hn : n ≤ 10 ^ precision := hnearest.le_of_le (by exact_mod_cast hhigh.le)
    have hn' : 10 ^ (precision - 1) ≤ n' := hnearest'.ge_of_ge (by exact_mod_cast hlow')
    calc (n : ℚ) * 10 ^ exponent ≤ 10 ^ precision * 10 ^ exponent := by
          gcongr
          exact_mod_cast hn
      _ = 10 ^ (precision - 1) * 10 ^ (exponent + 1) := by
          rw [pow_precision_eq, zpow_add_one₀ (by norm_num)]
          ring
      _ ≤ n' * 10 ^ exponent' := by
          gcongr
          · exact_mod_cast hn'
          · norm_num
          · omega

/-- Numbers that are further apart than rounding moves them stay apart. -/
theorem IsRounding.lt_of_gap (h : IsRounding q d) (h' : IsRounding q' d')
    (hgap : (1 + roundingUnit) * q < (1 - roundingUnit) * q') : d.toRat < d'.toRat := by
  have hhigh := (abs_le.1 h.error_le).2
  have hlow := (abs_le.1 h'.error_le).1
  linarith

theorem roundingUnit_lt_one : roundingUnit < 1 := by
  rw [roundingUnit, precision]
  norm_num

/-- A positive number is not rounded to nothing. -/
theorem IsRounding.pos (h : IsRounding q d) (hq : 0 < q) : 0 < d.toRat := by
  have hlow := (abs_le.1 h.error_le).1
  have hpart : 0 < (1 - roundingUnit) * q := mul_pos (sub_pos.2 roundingUnit_lt_one) hq
  linarith

/-! ## A unit price and a total -/

variable {unitPrice unitPrice' total total' : Decimal} {count count' : ℕ}

/-- **A total does not fall** when the price of a unit or the count grows. -/
theorem totals_le (hprice : 0 ≤ unitPrice.toRat) (hprices : unitPrice.toRat ≤ unitPrice'.toRat)
    (htotal : IsRounding (count * unitPrice.toRat) total)
    (htotal' : IsRounding (count' * unitPrice'.toRat) total') (hcount : count ≤ count') :
    total.toRat ≤ total'.toRat := by
  apply htotal.mono htotal'
  gcongr

/-- Counts that are written with few digits are further apart than rounding moves them. -/
theorem count_gap (hcount : count < count') (hfew : count' ≤ 10 ^ (precision - 1)) :
    (1 + roundingUnit) * count < (1 - roundingUnit) * count' := by
  have hstep : (count : ℚ) + 1 ≤ count' := by exact_mod_cast hcount
  have hfewq : (count' : ℚ) ≤ 10 ^ (precision - 1) := by exact_mod_cast hfew
  have hwidth : (0 : ℚ) < 2 * 10 ^ (precision - 1) + 1 := by positivity
  have hunit : roundingUnit * (2 * 10 ^ (precision - 1) + 1) = 1 :=
    one_div_mul_cancel hwidth.ne'
  have hsum : roundingUnit * (count + count') < 1 := by
    calc roundingUnit * (count + count') < roundingUnit * (2 * 10 ^ (precision - 1) + 1) := by
          apply mul_lt_mul_of_pos_left _ (by unfold roundingUnit; positivity)
          linarith
      _ = 1 := hunit
  linarith

/-- **A total grows with the count** if a unit costs anything, also when the price of a unit grows. -/
theorem totals_lt (hprice : 0 < unitPrice.toRat) (hprices : unitPrice.toRat ≤ unitPrice'.toRat)
    (htotal : IsRounding (count * unitPrice.toRat) total)
    (htotal' : IsRounding (count' * unitPrice'.toRat) total') (hcount : count < count')
    (hfew : count' ≤ 10 ^ (precision - 1)) : total.toRat < total'.toRat := by
  apply htotal.lt_of_gap htotal'
  have hrest : 0 ≤ 1 - roundingUnit := sub_nonneg.2 roundingUnit_lt_one.le
  calc (1 + roundingUnit) * (count * unitPrice.toRat) =
        (1 + roundingUnit) * count * unitPrice.toRat := (mul_assoc _ _ _).symm
    _ < (1 - roundingUnit) * count' * unitPrice.toRat :=
        mul_lt_mul_of_pos_right (count_gap hcount hfew) hprice
    _ ≤ (1 - roundingUnit) * count' * unitPrice'.toRat := by gcongr
    _ = (1 - roundingUnit) * (count' * unitPrice'.toRat) := mul_assoc _ _ _

end Decimal

end Tradespeak
