import Tradespeak.Proofs.Decimal.Overflow

/-!
# The decimals of the format

* `Decimal.InFormat` — the numbers with at most 28 digits and exponents within the bounds.
* `Decimal.fit_inFormat`, `Decimal.times_inFormat`, `Decimal.quotient_inFormat` — the results of the
  arithmetic are such numbers.
* `Decimal.reduce_spec` — dropping trailing zeros keeps the number, its sign, and that it is one of
  them; `Decimal.dropZeros_last` — no zero is left unless the exponent has reached the bound.
-/

set_option autoImplicit false

namespace Tradespeak

theorem roundDiv_le (a b : ℕ) : roundDiv a b ≤ a / b + 1 := by
  unfold roundDiv
  dsimp only
  split
  · omega
  split
  · omega
  · omega

namespace Decimal

variable {negative : Bool} {coefficient n : ℕ} {exponent : ℤ} {d total : Decimal}

/-- The decimal is a number with at most 28 digits, and its exponents are within the bounds of the
format. -/
def InFormat (d : Decimal) : Prop :=
  ∃ negative coefficient exponent, d = finite negative coefficient exponent ∧
    digitCount coefficient ≤ precision ∧ minExponent ≤ exponent ∧
    scientificExponent coefficient exponent ≤ maxExponent

/-- The decimal has a minus sign, which a zero may have too. -/
def isNegative : Decimal → Bool
  | finite negative _ _ | infinite negative | nan negative _ _ => negative

theorem scientificExponent_zero (exponent : ℤ) : scientificExponent 0 exponent = exponent := by
  have hdigits : digitCount 0 = 1 := by decide
  rw [scientificExponent, hdigits]
  omega

theorem zero_inFormat (negative : Bool) (hlow : minExponent ≤ exponent)
    (hhigh : exponent ≤ maxExponent) : (finite negative 0 exponent).InFormat :=
  ⟨negative, 0, exponent, rfl, by decide, hlow, by rwa [scientificExponent_zero]⟩

theorem bounded_le (h : bounded negative coefficient exponent = .ok d) :
    scientificExponent coefficient exponent ≤ maxExponent := by
  unfold bounded at h
  split at h
  · cases h
  · rename_i hexponent
    exact not_lt.1 hexponent

theorem bounded_inFormat (hdigits : digitCount coefficient ≤ precision)
    (hlow : minExponent ≤ exponent) (h : bounded negative coefficient exponent = .ok d) :
    d.InFormat :=
  ⟨negative, coefficient, exponent, bounded_eq_ok h, hdigits, hlow, bounded_le h⟩

/-- A coefficient that has been rounded keeps to the bounds, and its exponent has not fallen. -/
theorem carried_bounds (hn : n ≤ 10 ^ precision) (h : carried negative n exponent = .ok d) :
    ∃ coefficient later, d = finite negative coefficient later ∧
      digitCount coefficient ≤ precision ∧ exponent ≤ later ∧
      scientificExponent coefficient later ≤ maxExponent := by
  unfold carried at h
  split at h
  · exact ⟨_, _, bounded_eq_ok h, by decide +kernel, by omega, bounded_le h⟩
  · rename_i hcarry
    have hdigits : digitCount n ≤ precision :=
      (digitCount_le_iff (by decide)).2 (lt_of_le_of_ne hn hcarry)
    exact ⟨_, _, bounded_eq_ok h, hdigits, le_rfl, bounded_le h⟩

theorem carried_inFormat (hn : n ≤ 10 ^ precision) (hlow : minExponent ≤ exponent)
    (h : carried negative n exponent = .ok d) : d.InFormat := by
  obtain ⟨coefficient, later, rfl, hdigits, hexponent, hhigh⟩ := carried_bounds hn h
  exact ⟨negative, coefficient, later, rfl, hdigits, hlow.trans hexponent, hhigh⟩

/-- **A result that is brought into the format is in it.** -/
theorem fit_inFormat (h : fit negative coefficient exponent = .ok d) : d.InFormat := by
  have hbounds : minExponent ≤ maxExponent := by decide
  unfold fit at h
  split at h
  · cases h
    exact zero_inFormat negative (le_max_left _ _) (max_le hbounds (min_le_right _ _))
  rename_i hpos
  dsimp only at h
  split at h
  · exact bounded_inFormat (by omega) (by omega) h
  split at h
  · cases h
    exact zero_inFormat negative (by omega) (by omega)
  · -- as many digits are dropped as are too many, or more
    rename_i hmany hdigits
    have hsurplus := le_max_left ((digitCount coefficient : ℤ) - precision) (minExponent - exponent)
    have hexponent := le_max_right ((digitCount coefficient : ℤ) - precision) (minExponent - exponent)
    generalize max ((digitCount coefficient : ℤ) - precision) (minExponent - exponent) = surplus at *
    have hlt : coefficient / powerOfTen surplus.toNat < 10 ^ precision := by
      apply Nat.div_lt_of_lt_mul
      rw [powerOfTen_eq, ← pow_add]
      exact (lt_pow_digitCount coefficient).trans_le (Nat.pow_le_pow_right (by decide) (by omega))
    exact carried_inFormat ((roundDiv_le _ _).trans hlt) (by omega) h

/-- The product of a decimal that is a number is in the format. -/
theorem times_inFormat (hd : d.IsFinite) {count : ℕ} (h : times count d = .ok total) :
    total.InFormat := by
  obtain ⟨negative, coefficient, exponent, rfl⟩ := hd
  exact fit_inFormat h

/-- What is brought into the format has at most 28 digits and is not too large. -/
theorem Formats.bounds {q : ℚ} {result : Except Fault Decimal} (h : Formats negative q result)
    (hd : result = .ok d) : ∃ coefficient exponent, d = finite negative coefficient exponent ∧
      digitCount coefficient ≤ precision ∧
      scientificExponent coefficient exponent ≤ maxExponent := by
  cases h with
  | exact _ hdigits =>
    exact ⟨_, _, bounded_eq_ok hd, (digitCount_le_iff (by decide)).2 hdigits, bounded_le hd⟩
  | @rounded t n _ _ hhigh hnearest =>
    have hle : n ≤ 10 ^ precision := hnearest.le_of_le (by exact_mod_cast hhigh.le)
    obtain ⟨coefficient, exponent, rfl, hdigits, -, hsmall⟩ := carried_bounds hle hd
    exact ⟨coefficient, exponent, rfl, hdigits, hsmall⟩

/-- **A quotient is in the format**, unless its divisor has almost a million digits. -/
theorem quotient_inFormat {a b : ℕ} (hb : digitCount b + precision ≤ 1000026)
    (h : quotient a b = .ok d) : d.InFormat := by
  obtain ⟨coefficient, exponent, rfl, hlow⟩ := quotient_exponent h
  have hmin : minExponent ≤ exponent := by
    unfold minExponent
    omega
  rcases Nat.eq_zero_or_pos b with rfl | hbpos
  · cases h
  rcases Nat.eq_zero_or_pos a with rfl | hapos
  · rw [quotient, if_neg hbpos.ne', if_pos rfl] at h
    cases h
    exact zero_inFormat false hmin (by decide)
  · obtain ⟨coefficient', exponent', heq, hdigits, hhigh⟩ := (quotient_formats hapos hbpos).bounds h
    cases heq
    exact ⟨false, coefficient, exponent, rfl, hdigits, hmin, hhigh⟩

/-! ## Trailing zeros -/

/-- Something is left when zeros are dropped, and its last digit is no zero unless the exponent has
reached the bound. -/
theorem dropZeros_last (bound : ℤ) (hne : coefficient ≠ 0) (exponent : ℤ) :
    (dropZeros bound coefficient exponent).1 ≠ 0 ∧
      ((dropZeros bound coefficient exponent).1 % 10 ≠ 0 ∨
        bound ≤ (dropZeros bound coefficient exponent).2) := by
  fun_induction dropZeros bound coefficient exponent with
  | case1 coefficient exponent h ih => exact ih (by omega)
  | case2 coefficient exponent h => exact ⟨hne, by omega⟩

theorem scientificExponent_le_iff (hpos : 0 < coefficient) :
    scientificExponent coefficient exponent ≤ maxExponent ↔
      coefficient * 10 ^ exponent < (10 : ℚ) ^ (maxExponent + 1) := by
  have hoverflow : maxExponent < scientificExponent coefficient exponent ↔ _ :=
    (@bounded_eq_overflow_iff_exponent false coefficient exponent).symm.trans
      (bounded_eq_overflow_iff (Or.inl hpos))
  rw [← not_lt, hoverflow, not_le]

/-- **Dropping trailing zeros** keeps the number and its sign, and keeps it in the format. -/
theorem reduce_spec (hd : d.InFormat) :
    d.reduce.InFormat ∧ d.reduce.isNegative = d.isNegative ∧ d.reduce.toRat = d.toRat := by
  obtain ⟨negative, coefficient, exponent, rfl, hdigits, hlow, hhigh⟩ := hd
  rw [reduce]
  split
  · rename_i hzero
    subst hzero
    exact ⟨zero_inFormat negative (by decide) (by decide), rfl, by simp [toRat]⟩
  rename_i hne
  obtain ⟨hnumber, hle, hexponent⟩ := dropZeros_spec maxExponent coefficient exponent
  obtain ⟨hfewer, -⟩ := dropZeros_last maxExponent hne exponent
  generalize dropZeros maxExponent coefficient exponent = dropped at *
  obtain ⟨fewer, later⟩ := dropped
  dsimp only at *
  refine ⟨⟨negative, fewer, later, rfl, ?_, hlow.trans hexponent, ?_⟩, rfl, ?_⟩
  · rw [digitCount_le_iff (by decide)] at hdigits ⊢
    omega
  · rw [scientificExponent_le_iff (Nat.pos_of_ne_zero hne)] at hhigh
    rwa [scientificExponent_le_iff (Nat.pos_of_ne_zero hfewer), hnumber]
  · simp only [toRat, mul_assoc, hnumber]

end Decimal

end Tradespeak
