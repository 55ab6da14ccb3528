import Mathlib.Algebra.Order.Field.Power
import Mathlib.Data.Nat.Cast.Field
import Mathlib.Data.Rat.Floor
import Mathlib.Tactic.FieldSimp
import Mathlib.Tactic.Linarith
import Mathlib.Tactic.NormNum
import Mathlib.Tactic.Positivity
import Mathlib.Tactic.Ring
import Tradespeak.Decimal.Arithmetic

/-!
# Correct rounding

* `Decimal.toRat` — the rational number that a finite decimal is.
* `IsNearest` — the integer nearest to a rational number, a half going to the even one.
* `Decimal.IsAmount` — a finite decimal that is not negative and has at most 28 digits.
* `Decimal.IsRounding` — the amount that a rational number is rounded to: among the multiples of
  the power of ten that gives the number 28 digits before the point, the nearest one.
* `roundDiv_nearest` — the rounded quotient is the nearest integer.
* `Decimal.quotientExponent_spec` — the quotient has 28 digits before the point.
* `Decimal.Formats` — the two ways in which a positive number is brought into the format: as it is,
  or rounded to 28 digits (`quotient_formats`, `fit_formats`).
* `Decimal.fit_cases` — nothing but overflow can happen to a finite result.

Principal results: `Decimal.quotient_rounding` and `Decimal.times_rounding` — division, and
multiplication of an amount, are correctly rounded.
-/

set_option autoImplicit false

namespace Tradespeak

/-- The integer is nearest to the number, and the even one of two that are. -/
structure IsNearest (q : ℚ) (n : ℕ) : Prop where
  near : |q - n| ≤ 1 / 2
  even : |q - n| = 1 / 2 → Even n

namespace Decimal

/-- The rational number that a decimal is, zero if it is not finite. -/
def toRat : Decimal → ℚ
  | finite negative coefficient exponent =>
    (if negative then -1 else 1) * coefficient * 10 ^ exponent
  | infinite _ | nan _ _ _ => 0

/-- A finite decimal that is not negative and has at most 28 digits. -/
def IsAmount (d : Decimal) : Prop :=
  ∃ coefficient exponent, d = finite false coefficient exponent ∧
    digitCount coefficient ≤ precision

/-- **The amount that a number is rounded to**: if the number is `t` times a power of ten, and `t`
has 28 digits before the point, the integer nearest to `t` times that power. -/
structure IsRounding (q : ℚ) (d : Decimal) : Prop where
  amount : d.IsAmount
  nearest : ∃ (exponent : ℤ) (t : ℚ) (n : ℕ), q = t * 10 ^ exponent ∧
    (t = 0 ∨ 10 ^ (precision - 1) ≤ t ∧ t < 10 ^ precision) ∧ IsNearest t n ∧
    d.toRat = n * 10 ^ exponent

end Decimal

/-! ## Digits -/

theorem powerOfTen_eq (zeros : ℕ) : powerOfTen zeros = 10 ^ zeros := rfl

theorem digitCount_pos (n : ℕ) : 0 < digitCount n := by
  have hlength : digitCount n = (Nat.toDigits 10 n).length := by
    simp [digitCount, Nat.repr_eq_ofList_toDigits]
  rw [hlength]
  exact Nat.length_toDigits_pos

theorem digitCount_le_iff {n k : ℕ} (hk : 0 < k) : digitCount n ≤ k ↔ n < 10 ^ k := by
  have hlength : digitCount n = (Nat.toDigits 10 n).length := by
    simp [digitCount, Nat.repr_eq_ofList_toDigits]
  rw [hlength, Nat.length_toDigits_le_iff (by norm_num) hk]

theorem lt_pow_digitCount (n : ℕ) : n < 10 ^ digitCount n :=
  (digitCount_le_iff (digitCount_pos n)).1 le_rfl

theorem pow_le_of_digitCount {n k : ℕ} (hn : 0 < n) (hk : k < digitCount n) : 10 ^ k ≤ n := by
  rcases Nat.eq_zero_or_pos k with rfl | hpos
  · exact hn
  · by_contra hlt
    have := (digitCount_le_iff hpos).2 (not_le.1 hlt)
    omega

/-- The bounds that the number of digits gives, as powers with any integer exponents. -/
theorem zpow_digitCount {n : ℕ} (hn : 0 < n) :
    (10 : ℚ) ^ ((digitCount n : ℤ) - 1) ≤ n ∧ (n : ℚ) < 10 ^ (digitCount n : ℤ) := by
  constructor
  · obtain ⟨k, hk⟩ := Nat.exists_eq_add_of_lt (digitCount_pos n)
    have hle : 10 ^ k ≤ n := pow_le_of_digitCount hn (by omega)
    have hexp : (digitCount n : ℤ) - 1 = (k : ℤ) := by omega
    rw [hexp, zpow_natCast]
    exact_mod_cast hle
  · rw [zpow_natCast]
    exact_mod_cast lt_pow_digitCount n

/-! ## Nearest integers -/

theorem isNearest_self (n : ℕ) : IsNearest n n := by
  constructor <;> simp

/-- The rounded quotient is the nearest integer, a half going to the even one. -/
theorem roundDiv_nearest (a : ℕ) {b : ℕ} (hb : 0 < b) : IsNearest ((a : ℚ) / b) (roundDiv a b) := by
  have hbq : (0 : ℚ) < b := by exact_mod_cast hb
  have hlt : ((a % b : ℕ) : ℚ) < b := by exact_mod_cast Nat.mod_lt a hb
  have hnonneg : (0 : ℚ) ≤ ((a % b : ℕ) : ℚ) := by positivity
  have hdivision : (a : ℚ) / b = (a / b : ℕ) + ((a % b : ℕ) : ℚ) / b := by
    rw [eq_comm, ← mul_right_inj' hbq.ne']
    field_simp
    exact_mod_cast Nat.div_add_mod a b
  unfold roundDiv
  dsimp only
  rw [hdivision]
  generalize a / b = floor
  generalize a % b = remainder at hlt hnonneg
  -- the fraction is compared with a half through its double
  have hfraction : 0 ≤ (remainder : ℚ) / b := by positivity
  have hone : (remainder : ℚ) / b < 1 := (div_lt_one hbq).2 hlt
  split
  · rename_i hsmall
    have hhalf : (remainder : ℚ) / b < 1 / 2 := by
      rw [div_lt_div_iff₀ hbq two_pos]
      have : (2 : ℚ) * remainder < b := by exact_mod_cast hsmall
      linarith
    have habs : |(floor : ℚ) + remainder / b - floor| = remainder / b := by
      rw [add_sub_cancel_left, abs_of_nonneg hfraction]
    exact ⟨by rw [habs]; exact hhalf.le, fun h => absurd h (by rw [habs]; exact hhalf.ne)⟩
  split
  · rename_i hlarge
    have hhalf : 1 / 2 < (remainder : ℚ) / b := by
      rw [div_lt_div_iff₀ two_pos hbq]
      have : (b : ℚ) < 2 * remainder := by exact_mod_cast hlarge
      linarith
    have habs : |(floor : ℚ) + remainder / b - (floor + 1 : ℕ)| = 1 - remainder / b := by
      rw [abs_of_nonpos (by push_cast; linarith)]
      push_cast
      ring
    exact ⟨by rw [habs]; linarith, fun h => absurd h (by rw [habs]; linarith)⟩
  · rename_i hsmall hlarge
    have hhalf : (remainder : ℚ) / b = 1 / 2 := by
      rw [div_eq_div_iff hbq.ne' two_ne_zero]
      have : 2 * remainder = b := by omega
      have : (2 : ℚ) * remainder = b := by exact_mod_cast this
      linarith
    rcases Nat.even_or_odd' floor with ⟨m, rfl | rfl⟩
    · have habs : |((2 * m : ℕ) : ℚ) + remainder / b - (2 * m + 2 * m % 2 : ℕ)| = 1 / 2 := by
        rw [hhalf, Nat.mul_mod_right, Nat.add_zero, add_sub_cancel_left]
        norm_num
      exact ⟨habs.le, fun _ => ⟨m, by omega⟩⟩
    · have hup : 2 * m + 1 + (2 * m + 1) % 2 = 2 * m + 2 := by omega
      have habs : |((2 * m + 1 : ℕ) : ℚ) + remainder / b - (2 * m + 2 : ℕ)| = 1 / 2 := by
        rw [hhalf, abs_of_nonpos (by push_cast; linarith)]
        push_cast
        ring
      rw [hup]
      exact ⟨habs.le, fun _ => ⟨m + 1, by omega⟩⟩

/-- A number that a whole number does not exceed is not rounded below it. -/
theorem IsNearest.ge_of_ge {t : ℚ} {n k : ℕ} (h : IsNearest t n) (ht : k ≤ t) : k ≤ n := by
  have hnear := (abs_le.1 h.near).2
  have hlt : (k : ℚ) < n + 1 := by linarith
  exact Nat.lt_succ_iff.1 (by exact_mod_cast hlt)

/-- A number that does not exceed a whole number is not rounded beyond it. -/
theorem IsNearest.le_of_le {t : ℚ} {n k : ℕ} (h : IsNearest t n) (ht : t ≤ k) : n ≤ k := by
  have hnear := (abs_le.1 h.near).1
  have hlt : (n : ℚ) < k + 1 := by linarith
  exact Nat.lt_succ_iff.1 (by exact_mod_cast hlt)

namespace Decimal

variable {coefficient : ℕ} {exponent : ℤ} {d : Decimal}

@[simp] theorem toRat_finite (coefficient : ℕ) (exponent : ℤ) :
    (finite false coefficient exponent).toRat = coefficient * 10 ^ exponent := by
  simp [toRat]

/-- Zeros at the end of the coefficient are as good as a greater exponent. -/
theorem shifted_eq (coefficient zeros : ℕ) (exponent : ℤ) :
    ((coefficient * 10 ^ zeros : ℕ) : ℚ) * 10 ^ exponent =
      coefficient * 10 ^ (exponent + zeros) := by
  rw [zpow_add₀ (by norm_num), zpow_natCast]
  push_cast
  ring

/-! ## Results that are exact -/

theorem isRounding_zero (exponent : ℤ) : IsRounding 0 (finite false 0 exponent) :=
  ⟨⟨0, exponent, rfl, by decide⟩, 0, 0, 0, by simp, Or.inl rfl, by simpa using isNearest_self 0,
    by simp⟩

/-- A number that an amount is, is rounded to this amount. -/
theorem isRounding_of_exact (hpos : 0 < coefficient)
    (hdigits : digitCount coefficient ≤ precision) :
    IsRounding (coefficient * 10 ^ exponent) (finite false coefficient exponent) := by
  -- zeros are put behind the coefficient until it has 28 digits
  obtain ⟨zeros, hzeros⟩ := Nat.exists_eq_add_of_le hdigits
  have hshift : (coefficient : ℚ) * 10 ^ exponent =
      ((coefficient * 10 ^ zeros : ℕ) : ℚ) * 10 ^ (exponent - zeros) := by
    rw [shifted_eq, sub_add_cancel]
  refine ⟨⟨_, _, rfl, hdigits⟩, exponent - zeros, _, _, hshift, Or.inr ⟨?_, ?_⟩, isNearest_self _,
    by rw [toRat_finite, hshift]⟩
  · have hlow : 10 ^ (digitCount coefficient - 1) ≤ coefficient :=
      pow_le_of_digitCount hpos (by have := digitCount_pos coefficient; omega)
    have hprecision : precision - 1 = digitCount coefficient - 1 + zeros := by
      have := digitCount_pos coefficient
      omega
    rw [hprecision, pow_add]
    exact_mod_cast Nat.mul_le_mul_right (10 ^ zeros) hlow
  · rw [hzeros, pow_add]
    exact_mod_cast Nat.mul_lt_mul_of_pos_right (lt_pow_digitCount coefficient) (by positivity)

/-- Dropping zeros changes neither the number nor makes the coefficient longer. -/
theorem dropZeros_spec (bound : ℤ) (coefficient : ℕ) (exponent : ℤ) :
    ((dropZeros bound coefficient exponent).1 : ℚ) * 10 ^ (dropZeros bound coefficient exponent).2 =
        coefficient * 10 ^ exponent ∧
      (dropZeros bound coefficient exponent).1 ≤ coefficient ∧
      exponent ≤ (dropZeros bound coefficient exponent).2 := by
  fun_induction dropZeros bound coefficient exponent with
  | case1 coefficient exponent h ih =>
    obtain ⟨hnumber, hle, hexponent⟩ := ih
    refine ⟨?_, by omega, by omega⟩
    have htenth : coefficient = 10 * (coefficient / 10) := by omega
    rw [hnumber, zpow_add_one₀ (by norm_num)]
    nth_rewrite 2 [htenth]
    push_cast
    ring
  | case2 coefficient exponent h => exact ⟨rfl, le_rfl, le_rfl⟩

/-! ## Results that are rounded -/

theorem bounded_eq_ok {negative : Bool} (h : bounded negative coefficient exponent = .ok d) :
    d = finite negative coefficient exponent := by
  unfold bounded at h
  split at h
  · cases h
  · cases h
    rfl

/-- A coefficient that rounding has brought to 28 digits, or to the next power of ten. -/
theorem carried_rounding {t : ℚ} {n : ℕ} (hnearest : IsNearest t n)
    (hlow : 10 ^ (precision - 1) ≤ t) (hhigh : t < 10 ^ precision)
    (h : carried false n exponent = .ok d) : IsRounding (t * 10 ^ exponent) d := by
  have hle : n ≤ 10 ^ precision := hnearest.le_of_le (by exact_mod_cast hhigh.le)
  unfold carried at h
  split at h
  · rename_i hcarry
    have hd := bounded_eq_ok h
    refine ⟨⟨_, _, hd, by decide +kernel⟩, exponent, t, n, rfl, Or.inr ⟨hlow, hhigh⟩, hnearest, ?_⟩
    rw [hd, toRat_finite, hcarry, zpow_add_one₀ (by norm_num)]
    have hten : powerOfTen precision = powerOfTen (precision - 1) * 10 := by decide +kernel
    rw [hten]
    push_cast
    ring
  · rename_i hcarry
    have hd := bounded_eq_ok h
    have hlt : n < 10 ^ precision := lt_of_le_of_ne hle hcarry
    refine ⟨⟨_, _, hd, (digitCount_le_iff (by decide)).2 hlt⟩, exponent, t, n, rfl,
      Or.inr ⟨hlow, hhigh⟩, hnearest, by rw [hd, toRat_finite]⟩

/-- The two ways in which a positive number is brought into the format. -/
inductive Formats (negative : Bool) (q : ℚ) : Except Fault Decimal → Prop
  /-- The number has at most 28 digits. -/
  | exact {coefficient : ℕ} {exponent : ℤ} (hpos : 0 < coefficient)
      (hdigits : coefficient < 10 ^ precision) (hq : q = coefficient * 10 ^ exponent) :
      Formats negative q (bounded negative coefficient exponent)
  /-- What follows the 28th digit is rounded. -/
  | rounded {t : ℚ} {n : ℕ} {exponent : ℤ} (hlow : 10 ^ (precision - 1) ≤ t)
      (hhigh : t < 10 ^ precision) (hnearest : IsNearest t n) (hq : q = t * 10 ^ exponent) :
      Formats negative q (carried negative n exponent)

theorem Formats.rounding {q : ℚ} {result : Except Fault Decimal} (h : Formats false q result)
    (hd : result = .ok d) : IsRounding q d := by
  cases h with
  | exact hpos hdigits hq =>
    rw [hq, bounded_eq_ok hd]
    exact isRounding_of_exact hpos ((digitCount_le_iff (by decide)).2 hdigits)
  | rounded hlow hhigh hnearest hq =>
    rw [hq]
    exact carried_rounding hnearest hlow hhigh hd

/-! ## Division -/

/-- A quotient of numbers that are moved by as many places as the exponent says. -/
theorem scaled_div (a b : ℕ) (exponent : ℤ) :
    ((a * powerOfTen (-exponent).toNat : ℕ) : ℚ) / (b * powerOfTen exponent.toNat : ℕ) =
      a / b / 10 ^ exponent := by
  simp only [powerOfTen_eq, Nat.cast_mul, Nat.cast_pow, Nat.cast_ofNat]
  rcases le_total 0 exponent with h | h
  · obtain ⟨k, rfl⟩ := Int.eq_ofNat_of_zero_le h
    simp [div_div]
  · obtain ⟨k, hk⟩ := Int.eq_ofNat_of_zero_le (by omega : 0 ≤ -exponent)
    obtain rfl : exponent = -(k : ℤ) := by omega
    simp [mul_div_right_comm]

/-- The quotient lies between the powers of ten that the numbers of digits give. -/
theorem div_digitCount {a b : ℕ} (ha : 0 < a) (hb : 0 < b) :
    (10 : ℚ) ^ ((digitCount a : ℤ) - digitCount b - 1) ≤ a / b ∧
      (a : ℚ) / b < 10 ^ ((digitCount a : ℤ) - digitCount b + 1) := by
  obtain ⟨halow, hahigh⟩ := zpow_digitCount ha
  obtain ⟨hblow, hbhigh⟩ := zpow_digitCount hb
  have hten : (10 : ℚ) ≠ 0 := by norm_num
  have hbq : (0 : ℚ) < b := by exact_mod_cast hb
  generalize (digitCount a : ℤ) = p at *
  generalize (digitCount b : ℤ) = r at *
  constructor
  · rw [le_div_iff₀ hbq]
    calc (10 : ℚ) ^ (p - r - 1) * b ≤ 10 ^ (p - r - 1) * 10 ^ r := by gcongr
      _ = 10 ^ (p - 1) := by
          rw [← zpow_add₀ hten]
          congr 1
          omega
      _ ≤ a := halow
  · rw [div_lt_iff₀ hbq]
    calc (a : ℚ) < 10 ^ p := hahigh
      _ = 10 ^ (p - r + 1) * 10 ^ (r - 1) := by
          rw [← zpow_add₀ hten]
          congr 1
          omega
      _ ≤ 10 ^ (p - r + 1) * b := by gcongr

theorem pow_le_div_zpow_iff {q : ℚ} {k : ℕ} :
    10 ^ k ≤ q / 10 ^ exponent ↔ (10 : ℚ) ^ (k + exponent) ≤ q := by
  rw [le_div_iff₀ (by positivity), zpow_add₀ (by norm_num), zpow_natCast]

theorem div_zpow_lt_pow_iff {q : ℚ} {k : ℕ} :
    q / 10 ^ exponent < 10 ^ k ↔ q < (10 : ℚ) ^ (k + exponent) := by
  rw [div_lt_iff₀ (by positivity), zpow_add₀ (by norm_num), zpow_natCast]

/-- A number has 28 digits before the point in one place only. -/
theorem exponent_unique {q : ℚ} {low high : ℤ} (hlow : q / 10 ^ low < 10 ^ precision)
    (hhigh : 10 ^ (precision - 1) ≤ q / 10 ^ high) : high ≤ low := by
  rw [div_zpow_lt_pow_iff] at hlow
  rw [pow_le_div_zpow_iff] at hhigh
  have hlt : (10 : ℚ) ^ (((precision - 1 : ℕ) : ℤ) + high) < 10 ^ ((precision : ℤ) + low) :=
    hhigh.trans_lt hlow
  have hexp := (zpow_lt_zpow_iff_right₀ (by norm_num)).1 hlt
  have hprecision : ((precision - 1 : ℕ) : ℤ) = (precision : ℤ) - 1 := by decide
  omega

/-- The test in whole numbers whether a quotient reaches a power of ten. -/
theorem scaled_le_iff {a b k : ℕ} (hb : 0 < b) :
    b * powerOfTen (k + exponent.toNat) ≤ a * powerOfTen (-exponent).toNat ↔
      (10 : ℚ) ^ (k + exponent) ≤ a / b := by
  have hden : 0 < b * powerOfTen exponent.toNat := by
    rw [powerOfTen_eq]
    positivity
  have hpower : b * powerOfTen (k + exponent.toNat) =
      10 ^ k * (b * powerOfTen exponent.toNat) := by
    rw [powerOfTen_eq, powerOfTen_eq, pow_add]
    ring
  rw [← pow_le_div_zpow_iff, ← scaled_div, le_div_iff₀ (by exact_mod_cast hden), hpower]
  exact_mod_cast Iff.rfl

/-- The exponent is chosen so that the quotient has 28 digits before the point. -/
theorem quotientExponent_spec {a b : ℕ} (ha : 0 < a) (hb : 0 < b) :
    10 ^ (precision - 1) ≤ (a : ℚ) / b / 10 ^ quotientExponent a b ∧
      (a : ℚ) / b / 10 ^ quotientExponent a b < 10 ^ precision := by
  obtain ⟨hlow, hhigh⟩ := div_digitCount ha hb
  have hone : ((precision - 1 : ℕ) : ℤ) = (precision : ℤ) - 1 := by decide
  rw [pow_le_div_zpow_iff, div_zpow_lt_pow_iff, hone]
  unfold quotientExponent
  simp only [scaled_le_iff hb]
  generalize (precision : ℤ) = p
  split
  · rename_i hreached
    refine ⟨?_, ?_⟩
    · convert hreached using 2
      omega
    · convert hhigh using 2
      omega
  · rename_i hreached
    refine ⟨?_, not_le.1 hreached⟩
    convert hlow using 2
    omega

/-- The quotient of positive numbers is brought into the format. -/
theorem quotient_formats {a b : ℕ} (ha : 0 < a) (hb : 0 < b) :
    Formats false ((a : ℚ) / b) (quotient a b) := by
  obtain ⟨hlow, hhigh⟩ := quotientExponent_spec ha hb
  have hscaled := scaled_div a b (quotientExponent a b)
  have hden : 0 < b * powerOfTen (quotientExponent a b).toNat := by
    rw [powerOfTen_eq]
    positivity
  have hquotient : (a : ℚ) / b =
      a / b / 10 ^ quotientExponent a b * 10 ^ quotientExponent a b := by
    rw [div_mul_cancel₀]
    positivity
  unfold quotient
  rw [if_neg hb.ne', if_neg ha.ne']
  dsimp only
  generalize quotientExponent a b = exponent at *
  generalize a * powerOfTen (-exponent).toNat = num at *
  generalize b * powerOfTen exponent.toNat = den at *
  split
  · rename_i hexact
    obtain ⟨hnumber, hle, -⟩ := dropZeros_spec 0 (num / den) exponent
    have hcast : ((num / den : ℕ) : ℚ) = a / b / 10 ^ exponent := by
      rw [← hscaled, Nat.cast_div (Nat.dvd_of_mod_eq_zero hexact) (by exact_mod_cast hden.ne')]
    rw [hcast, ← hquotient] at hnumber
    have hlt : num / den < 10 ^ precision := by
      rw [← hcast] at hhigh
      exact_mod_cast hhigh
    apply Formats.exact _ (hle.trans_lt hlt) hnumber.symm
    -- the coefficient without zeros is not zero, since the number is not
    apply Nat.pos_of_ne_zero
    intro hzero
    rw [hzero, Nat.cast_zero, zero_mul] at hnumber
    have : (0 : ℚ) < a / b := by positivity
    exact this.ne hnumber
  · have hnearest := roundDiv_nearest num hden
    rw [hscaled] at hnearest
    exact Formats.rounded hlow hhigh hnearest hquotient

/-- **Division is correctly rounded.** -/
theorem quotient_rounding {a b : ℕ} (h : quotient a b = .ok d) : IsRounding ((a : ℚ) / b) d := by
  rcases Nat.eq_zero_or_pos b with rfl | hb
  · cases h
  rcases Nat.eq_zero_or_pos a with rfl | ha
  · rw [quotient, if_neg hb.ne', if_pos rfl] at h
    cases h
    rw [Nat.cast_zero, zero_div]
    exact isRounding_zero 0
  · exact (quotient_formats ha hb).rounding h

/-- The exponent of a quotient is not below what the digits of the divisor give. -/
theorem quotient_exponent {a b : ℕ} (h : quotient a b = .ok d) :
    ∃ coefficient exponent, d = finite false coefficient exponent ∧
      -(digitCount b + precision : ℤ) ≤ exponent := by
  have hlow : -(digitCount b + precision : ℤ) ≤ quotientExponent a b := by
    have := digitCount_pos a
    unfold quotientExponent
    dsimp only
    split <;> omega
  unfold quotient at h
  split at h
  · cases h
  split at h
  · cases h
    exact ⟨0, 0, rfl, by omega⟩
  dsimp only at h
  generalize quotientExponent a b = exponent at *
  split at h
  · have hup := (dropZeros_spec 0 (a * powerOfTen (-exponent).toNat /
      (b * powerOfTen exponent.toNat)) exponent).2.2
    exact ⟨_, _, bounded_eq_ok h, hlow.trans hup⟩
  · unfold carried at h
    split at h
    · exact ⟨_, _, bounded_eq_ok h, by omega⟩
    · exact ⟨_, _, bounded_eq_ok h, hlow⟩

/-! ## Multiplication -/

theorem bounded_cases (negative : Bool) (coefficient : ℕ) (exponent : ℤ) :
    (∃ d, bounded negative coefficient exponent = .ok d) ∨
      bounded negative coefficient exponent = .error .overflow := by
  unfold bounded
  split
  · exact Or.inr rfl
  · exact Or.inl ⟨_, rfl⟩

theorem carried_cases (negative : Bool) (coefficient : ℕ) (exponent : ℤ) :
    (∃ d, carried negative coefficient exponent = .ok d) ∨
      carried negative coefficient exponent = .error .overflow := by
  unfold carried
  split <;> exact bounded_cases _ _ _

/-- Nothing but overflow can happen to a finite result. -/
theorem fit_cases (negative : Bool) (coefficient : ℕ) (exponent : ℤ) :
    (∃ d, fit negative coefficient exponent = .ok d) ∨
      fit negative coefficient exponent = .error .overflow := by
  unfold fit
  split
  · exact Or.inl ⟨_, rfl⟩
  dsimp only
  split
  · exact bounded_cases _ _ _
  split
  · exact Or.inl ⟨_, rfl⟩
  · exact carried_cases _ _ _

/-- A positive result is brought into the format, unless its exponent is too small, when it may be
rounded at the smallest place instead. -/
theorem fit_formats (negative : Bool) (exponent : ℤ) (hpos : 0 < coefficient) :
    Formats negative (coefficient * 10 ^ exponent) (fit negative coefficient exponent) ∨
      exponent < minExponent ∧ ∃ (t : ℚ) (n : ℕ), t < 10 ^ precision ∧ IsNearest t n ∧
        coefficient * 10 ^ exponent = t * 10 ^ minExponent ∧
        fit negative coefficient exponent = carried negative n minExponent := by
  have hten : (10 : ℚ) ≠ 0 := by norm_num
  have hprecision : 0 < precision := by decide
  unfold fit
  rw [if_neg hpos.ne']
  dsimp only
  split
  · have hdigits : coefficient < 10 ^ precision :=
      (digitCount_le_iff hprecision).1 (by omega)
    exact Or.inl (.exact hpos hdigits rfl)
  rename_i hsurplus
  obtain ⟨surplus, hmax⟩ : ∃ surplus : ℕ,
      max ((digitCount coefficient : ℤ) - precision) (minExponent - exponent) = surplus :=
    ⟨(max ((digitCount coefficient : ℤ) - precision) (minExponent - exponent)).toNat, by omega⟩
  rw [hmax, Int.toNat_natCast]
  have hdivisor : (0 : ℚ) < 10 ^ surplus := by positivity
  have hshift : (coefficient : ℚ) * 10 ^ exponent =
      (coefficient : ℚ) / 10 ^ surplus * 10 ^ (exponent + surplus) := by
    rw [zpow_add₀ hten, zpow_natCast]
    field_simp
  have hhigh : (coefficient : ℚ) / 10 ^ surplus < 10 ^ precision := by
    rw [div_lt_iff₀ hdivisor, ← pow_add]
    have hle : 10 ^ digitCount coefficient ≤ 10 ^ (precision + surplus) :=
      Nat.pow_le_pow_right (by decide) (by omega)
    exact_mod_cast (lt_pow_digitCount coefficient).trans_le hle
  split
  · -- less than a tenth of the smallest place is left
    rename_i hdigits
    have hsmallest : exponent + surplus = minExponent := by omega
    refine Or.inr ⟨by omega, coefficient / 10 ^ surplus, 0, hhigh, ?_, hsmallest ▸ hshift, ?_⟩
    · have hlt : (coefficient : ℚ) / 10 ^ surplus < 1 / 2 := by
        have hle : 10 ^ (digitCount coefficient + 1) ≤ 10 ^ surplus :=
          Nat.pow_le_pow_right (by decide) (by omega)
        have hlt := lt_pow_digitCount coefficient
        rw [div_lt_div_iff₀ hdivisor two_pos, one_mul]
        rw [pow_succ] at hle
        exact_mod_cast (by omega : coefficient * 2 < 10 ^ surplus)
      have habs : |(coefficient : ℚ) / 10 ^ surplus - (0 : ℕ)| = coefficient / 10 ^ surplus := by
        rw [Nat.cast_zero, sub_zero, abs_of_nonneg (by positivity)]
      exact ⟨by rw [habs]; exact hlt.le, fun _ => Even.zero⟩
    · rw [hsmallest]
      rfl
  have hnearest : IsNearest ((coefficient : ℚ) / 10 ^ surplus)
      (roundDiv coefficient (powerOfTen surplus)) := by
    have hpower : 0 < powerOfTen surplus := by
      rw [powerOfTen_eq]
      positivity
    have hnearest := roundDiv_nearest coefficient hpower
    rwa [powerOfTen_eq, Nat.cast_pow, Nat.cast_ofNat, ← powerOfTen_eq] at hnearest
  rcases le_or_gt (minExponent - exponent) (digitCount coefficient - precision) with hle | hlt
  · -- as many digits are dropped as are too many
    have hlow : 10 ^ (precision - 1 + surplus) ≤ coefficient :=
      pow_le_of_digitCount hpos (by omega)
    refine Or.inl (.rounded ?_ hhigh hnearest hshift)
    rw [le_div_iff₀ hdivisor, ← pow_add]
    exact_mod_cast hlow
  · have hsmallest : exponent + surplus = minExponent := by omega
    rw [hsmallest] at hshift ⊢
    exact Or.inr ⟨by omega, _, _, hhigh, hnearest, hshift, rfl⟩

/-- A result whose exponent is not too small is rounded to 28 digits. -/
theorem fit_rounding (hexponent : minExponent ≤ exponent)
    (h : fit false coefficient exponent = .ok d) :
    IsRounding (coefficient * 10 ^ exponent) d := by
  rcases Nat.eq_zero_or_pos coefficient with rfl | hpos
  · cases h
    rw [Nat.cast_zero, zero_mul]
    exact isRounding_zero _
  · rcases fit_formats false exponent hpos with hformats | ⟨hlt, -⟩
    · exact hformats.rounding h
    · omega

/-- **Multiplication is correctly rounded**, if the exponent is not too small. -/
theorem times_rounding {count : ℕ} (hexponent : minExponent ≤ exponent)
    (h : times count (finite false coefficient exponent) = .ok d) :
    IsRounding (count * (finite false coefficient exponent).toRat) d := by
  rw [toRat_finite, ← mul_assoc, ← Nat.cast_mul]
  exact fit_rounding hexponent h

end Decimal

end Tradespeak
