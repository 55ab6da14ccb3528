import Tradespeak.Proofs.Decimal.ReadBack
import Tradespeak.Proofs.Numeral.Canonical

/-!
# The plain form of an amount

* `IsTidy` — digits with or without a point, and no zero among them that could be left out.
* `Decimal.IsReduced` — the decimals without trailing zeros, a zero having the exponent zero.
* `Decimal.isTidy_plain` — a reduced decimal is written tidily.
* `Decimal.reduce_isReduced`, `Decimal.IsReduced.eq` — dropping trailing zeros reduces a decimal of
  the format, and reduced decimals of one sign and one value are equal.

Principal result: `Market.creditsText_spec` — an amount is written tidily, is read back, and is
written in one way only.
-/

set_option autoImplicit false

namespace Tradespeak

variable {s t : Text}

/-! ## Tidy digits -/

/-- Digits that do not begin with a zero. -/
def NoLeadingZero (s : Text) : Prop := IsDigits s ∧ ∃ c rest, c ≠ '0' ∧ s = c :: rest

/-- Digits that do not end with a zero. -/
def NoTrailingZero (s : Text) : Prop := IsDigits s ∧ ∃ front c, c ≠ '0' ∧ s = front ++ [c]

/-- **The text writes a number without a zero that could be left out**: before the point, if there is
one, stands a single zero or no zero at the front, and after the point no zero at the end. -/
inductive IsTidy : Text → Prop
  | whole {s : Text} (hs : s = ['0'] ∨ NoLeadingZero s) : IsTidy s
  | pointed {s t : Text} (hs : s = ['0'] ∨ NoLeadingZero s) (ht : NoTrailingZero t) :
      IsTidy (s ++ '.' :: t)

theorem NoLeadingZero.append (hs : NoLeadingZero s) (ht : IsDigits t) : NoLeadingZero (s ++ t) := by
  obtain ⟨hdigits, c, rest, hc, rfl⟩ := hs
  exact ⟨isDigits_append.2 ⟨hdigits, ht⟩, c, rest ++ t, hc, rfl⟩

theorem NoTrailingZero.append (hs : IsDigits s) (ht : NoTrailingZero t) :
    NoTrailingZero (s ++ t) := by
  obtain ⟨hdigits, front, c, hc, rfl⟩ := ht
  exact ⟨isDigits_append.2 ⟨hs, hdigits⟩, s ++ front, c, hc, (List.append_assoc _ _ _).symm⟩

theorem NoLeadingZero.take {n : ℕ} (hs : NoLeadingZero s) (hn : 0 < n) :
    NoLeadingZero (s.take n) := by
  obtain ⟨hdigits, c, rest, hc, rfl⟩ := hs
  obtain ⟨k, rfl⟩ := Nat.exists_eq_add_of_lt hn
  refine ⟨fun d hd => hdigits d (List.mem_of_mem_take hd), c, rest.take k, hc, ?_⟩
  rw [Nat.zero_add, List.take_succ_cons]

theorem NoTrailingZero.drop {n : ℕ} (hs : NoTrailingZero s) (hn : n < s.length) :
    NoTrailingZero (s.drop n) := by
  obtain ⟨hdigits, front, c, hc, rfl⟩ := hs
  rw [List.length_append, List.length_singleton] at hn
  refine ⟨fun d hd => hdigits d (List.mem_of_mem_drop hd), front.drop n, c, hc, ?_⟩
  rw [List.drop_append_of_le_length (by omega)]

/-- The last digit of a number and the digits before it. -/
theorem ofNat_of_ten_le {n : ℕ} (hn : 10 ≤ n) :
    Text.ofNat n = Text.ofNat (n / 10) ++ [Nat.digitChar (n % 10)] := by
  rw [Text.ofNat, Text.ofNat, Nat.toList_repr, Nat.toList_repr,
    Nat.toDigits_of_base_le (by decide) hn]

theorem ofNat_of_lt_ten {n : ℕ} (hn : n < 10) : Text.ofNat n = [Nat.digitChar n] := by
  rw [Text.ofNat, Nat.toList_repr, Nat.toDigits_of_lt_base hn]

theorem ofNat_noLeadingZero {n : ℕ} (hn : n ≠ 0) : NoLeadingZero (Text.ofNat n) := by
  induction n using Nat.strongRecOn with
  | ind n ih =>
    rcases Nat.lt_or_ge n 10 with hlt | hge
    · refine ⟨isDigits_ofNat n, Nat.digitChar n, [], ?_, ofNat_of_lt_ten hlt⟩
      rwa [Ne, Nat.digitChar_eq_zero]
    · have hfront := ih (n / 10) (by omega) (by omega)
      have hdigits := isDigits_ofNat n
      rw [ofNat_of_ten_le hge] at hdigits ⊢
      exact hfront.append (isDigits_append.1 hdigits).2

theorem ofNat_noTrailingZero {n : ℕ} (hn : n % 10 ≠ 0) : NoTrailingZero (Text.ofNat n) := by
  refine ⟨isDigits_ofNat n, ?_⟩
  rcases Nat.lt_or_ge n 10 with hlt | hge
  · refine ⟨[], Nat.digitChar n, ?_, ofNat_of_lt_ten hlt⟩
    rw [Ne, Nat.digitChar_eq_zero]
    omega
  · refine ⟨_, Nat.digitChar (n % 10), ?_, ofNat_of_ten_le hge⟩
    rwa [Ne, Nat.digitChar_eq_zero]

namespace Decimal

variable {negative : Bool} {coefficient : ℕ} {exponent : ℤ} {d d' : Decimal}

/-- Digits without a zero at either end are tidy wherever the point is put. -/
theorem isTidy_withPoint (hfirst : NoLeadingZero s) (hlast : NoTrailingZero s) (place : ℤ) :
    IsTidy (withPoint s place) := by
  unfold withPoint
  split
  · -- zeros between the point and the digits
    exact .pointed (s := ['0']) (Or.inl rfl) (hlast.append (isDigits_zeros _))
  split
  · exact .whole (Or.inr (hfirst.append (isDigits_zeros _)))
  · rename_i hplace hlength
    exact .pointed (Or.inr (hfirst.take (by omega))) (hlast.drop (by omega))

/-! ## Reduced decimals -/

/-- **The decimals without trailing zeros.** -/
inductive IsReduced : Decimal → Prop
  | zero (negative : Bool) : IsReduced (finite negative 0 0)
  | nonzero {negative : Bool} {coefficient : ℕ} {exponent : ℤ} (hlast : coefficient % 10 ≠ 0) :
      IsReduced (finite negative coefficient exponent)

/-- A reduced decimal is written tidily, after its sign. -/
theorem IsReduced.isTidy (hd : d.IsReduced) :
    ∃ body, d.plain = sign d.isNegative ++ body ∧ IsTidy body := by
  cases hd with
  | zero negative => exact ⟨['0'], rfl, .whole (Or.inl rfl)⟩
  | @nonzero negative coefficient exponent hlast =>
    have hne : coefficient ≠ 0 := by
      rintro rfl
      exact hlast rfl
    exact ⟨_, rfl, isTidy_withPoint (ofNat_noLeadingZero hne) (ofNat_noTrailingZero hlast) _⟩

/-- **Dropping trailing zeros reduces a decimal.**  At the largest exponent of the format there is a
single digit, so that no zero is left there. -/
theorem reduce_isReduced (hd : d.InFormat) : d.reduce.IsReduced := by
  obtain ⟨hreduced, -⟩ := reduce_spec hd
  obtain ⟨negative, coefficient, exponent, rfl, -⟩ := hd
  rw [reduce] at hreduced ⊢
  split
  · exact .zero negative
  rename_i hne
  rw [if_neg hne] at hreduced
  obtain ⟨hfewer, hlast⟩ := dropZeros_last maxExponent hne exponent
  generalize dropZeros maxExponent coefficient exponent = dropped at *
  obtain ⟨fewer, later⟩ := dropped
  dsimp only at *
  obtain ⟨_, _, _, heq, -, -, hhigh⟩ := hreduced
  cases heq
  rcases hlast with hlast | hbound
  · exact .nonzero hlast
  · have hdigits : digitCount fewer ≤ 1 := by
      unfold scientificExponent at hhigh
      omega
    rw [digitCount_le_iff (by decide)] at hdigits
    exact .nonzero (by omega)

/-- A coefficient that is taken times the lower of two powers of ten ends with a zero. -/
theorem mod_ten_of_lower {a b : ℕ} {e f : ℤ} (hlt : e < f)
    (h : (a : ℚ) * 10 ^ e = b * 10 ^ f) : a % 10 = 0 := by
  obtain ⟨zeros, rfl⟩ : ∃ zeros : ℕ, f = e + (zeros + 1 : ℕ) := ⟨(f - e - 1).toNat, by omega⟩
  rw [← shifted_eq, mul_left_inj' (by positivity)] at h
  have ha : a = b * 10 ^ (zeros + 1) := by exact_mod_cast h
  rw [ha, pow_succ, ← mul_assoc, Nat.mul_mod_left]

/-- Decimals of one sign and one value have coefficients of one value. -/
theorem unsigned_eq {a b : ℕ} {e f : ℤ}
    (h : (finite negative a e).toRat = (finite negative b f).toRat) :
    (a : ℚ) * 10 ^ e = b * 10 ^ f := by
  simp only [toRat, mul_assoc] at h
  refine mul_left_cancel₀ ?_ h
  split <;> norm_num

theorem eq_zero_of_toRat {a : ℕ} {e f : ℤ}
    (h : (finite negative a e).toRat = (finite negative 0 f).toRat) : a = 0 := by
  have hvalue := unsigned_eq h
  rw [Nat.cast_zero, zero_mul, mul_eq_zero, or_iff_left (by positivity)] at hvalue
  exact_mod_cast hvalue

/-- **Reduced decimals of one sign and one value are equal.**  The exponents are equal, since else
the coefficient with the lower one would end with a zero. -/
theorem IsReduced.eq (hd : d.IsReduced) (hd' : d'.IsReduced) (hsign : d'.isNegative = d.isNegative)
    (hnumber : d'.toRat = d.toRat) : d' = d := by
  cases hd with
  | zero negative =>
    cases hd' with
    | zero negative' =>
      cases hsign
      rfl
    | @nonzero _ b f hlast =>
      cases hsign
      exact absurd (by rw [eq_zero_of_toRat hnumber]) hlast
  | @nonzero negative a e hlast =>
    cases hd' with
    | zero negative' =>
      cases hsign
      exact absurd (by rw [eq_zero_of_toRat hnumber.symm]) hlast
    | @nonzero negative' b f hlast' =>
      cases hsign
      have hvalue := unsigned_eq hnumber
      rcases lt_trichotomy f e with hlt | rfl | hlt
      · exact absurd (mod_ten_of_lower hlt hvalue) hlast'
      · rw [mul_left_inj' (by positivity)] at hvalue
        have hcoefficient : b = a := by exact_mod_cast hvalue
        rw [hcoefficient]
      · exact absurd (mod_ten_of_lower hlt hvalue.symm) hlast

end Decimal

namespace Market

variable {d d' : Decimal}

/-- **Amounts are written alike just if they have one sign and one value.** -/
theorem creditsText_eq_iff (hd : d.InFormat) (hd' : d'.InFormat) :
    creditsText d' = creditsText d ↔
      d'.isNegative = d.isNegative ∧ d'.toRat = d.toRat := by
  constructor
  · intro hsame
    obtain ⟨e, hread, -, hsign, hnumber⟩ := read_creditsText hd
    obtain ⟨e', hread', -, hsign', hnumber'⟩ := read_creditsText hd'
    rw [hsame, hread] at hread'
    cases hread'
    exact ⟨hsign'.symm.trans hsign, hnumber'.symm.trans hnumber⟩
  · rintro ⟨hsign, hnumber⟩
    obtain ⟨-, hsigns, hnumbers⟩ := Decimal.reduce_spec hd
    obtain ⟨-, hsigns', hnumbers'⟩ := Decimal.reduce_spec hd'
    have hreduced : d'.reduce = d.reduce := by
      apply (Decimal.reduce_isReduced hd).eq (Decimal.reduce_isReduced hd')
      · rw [hsigns, hsigns', hsign]
      · rw [hnumbers, hnumbers', hnumber]
    rw [creditsText, creditsText, hreduced]

theorem creditsText_isTidy (hd : d.InFormat) :
    ∃ body, creditsText d = Decimal.sign d.isNegative ++ body ∧ IsTidy body := by
  obtain ⟨-, hsign, -⟩ := Decimal.reduce_spec hd
  rw [← hsign]
  exact (Decimal.reduce_isReduced hd).isTidy

/-- An amount, which is not negative, is written without a sign. -/
theorem creditsText_isTidy_of_amount (hd : d.InFormat) (hamount : d.IsAmount) :
    IsTidy (creditsText d) := by
  obtain ⟨coefficient, exponent, rfl, -⟩ := hamount
  obtain ⟨body, hbody, htidy⟩ := creditsText_isTidy hd
  rwa [hbody]

/-- **How amounts are written.**  Unit prices and totals are decimals of the format.  A decimal of the
format is written with a minus sign or none and without an exponent, and no zero is written that could
be left out.  It is read back as the same number, and every other decimal of the same sign and the
same value is written alike. -/
theorem creditsText_spec :
    (∀ (credits : ℕ) (units : Numeral) (unitPrice : Decimal),
      Decimal.quotient credits units.value = .ok unitPrice → unitPrice.InFormat) ∧
    (∀ (count : Numeral) (unitPrice total : Decimal), unitPrice.IsFinite →
      unitPrice.times count.value = .ok total → total.InFormat) ∧
    ∀ d : Decimal, d.InFormat →
      (∃ body, creditsText d = Decimal.sign d.isNegative ++ body ∧ IsTidy body) ∧
      (∃ e, Decimal.read (creditsText d) = .ok e ∧ e.IsFinite ∧ e.toRat = d.toRat) ∧
      ∀ d' : Decimal, d'.InFormat →
        (creditsText d' = creditsText d ↔ d'.isNegative = d.isNegative ∧ d'.toRat = d.toRat) := by
  refine ⟨fun credits units unitPrice hprice => ?_,
    fun count unitPrice total hfinite htotal => Decimal.times_inFormat hfinite htotal,
    fun d hd => ⟨creditsText_isTidy hd, ?_, fun d' hd' => creditsText_eq_iff hd hd'⟩⟩
  · have hdigits : digitCount units.value ≤ 4 := by
      rw [digitCount_le_iff (by decide)]
      exact (Numeral.value_bounds units).2.trans_lt (by decide)
    have hprecision : Decimal.precision = 28 := rfl
    exact Decimal.quotient_inFormat (by omega) hprice
  · obtain ⟨e, hread, hfinite, -, hnumber⟩ := read_creditsText hd
    exact ⟨e, hread, hfinite, hnumber⟩

/-- Trailing zeros and the exponent make no difference to what is written. -/
theorem creditsText_spec_fraction :
    creditsText (.finite true 2500 (-4)) = "-0.25".toList ∧
      creditsText (.finite true 25 (-2)) = creditsText (.finite true 2500 (-4)) := by
  have hlong : (Decimal.finite true 2500 (-4)).InFormat :=
    ⟨_, _, _, rfl, by decide +kernel, by decide, by decide +kernel⟩
  have hshort : (Decimal.finite true 25 (-2)).InFormat :=
    ⟨_, _, _, rfl, by decide +kernel, by decide, by decide +kernel⟩
  obtain ⟨-, -, hspec⟩ := creditsText_spec
  obtain ⟨-, -, hsame⟩ := hspec _ hlong
  refine ⟨by decide +kernel, (hsame _ hshort).2 ⟨rfl, ?_⟩⟩
  norm_num [Decimal.toRat]

end Market

end Tradespeak
