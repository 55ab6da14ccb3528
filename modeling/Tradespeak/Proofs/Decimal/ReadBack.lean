import Mathlib.Data.List.TakeWhile
import Mathlib.Tactic.Positivity
import Mathlib.Tactic.Ring
import Tradespeak.Proofs.Decimal.Format
import Tradespeak.Proofs.Decimal.Printing
import Tradespeak.Proofs.Text.Words

/-!
# Reading back what is written

* `digitsValue_append_zeros`, `digitsValue_zeros_append`, `digitsValue_ofNat` — the number that digits
  write.
* `Decimal.Positional` — what digits with or without a point write; it is what the reader makes of
  them (`Decimal.readFinite_positional`) and what the printer puts there
  (`Decimal.positional_withPoint`).

Principal results: `Decimal.read_plain` — a decimal that is written without an exponent is read back as
the same number; `Market.read_creditsText` — so are the credits that a reply names.
-/

set_option autoImplicit false

namespace Tradespeak

variable {c : Char} {s t : Text}

/-! ## Digits -/

/-- What holds of the ten digits holds of every digit. -/
theorem of_isDigit {p : Char → Prop} (hall : ∀ n < 10, p (Char.ofNat (48 + n)))
    (hc : c.isDigit = true) : p c := by
  rw [Char.isDigit, Bool.and_eq_true, decide_eq_true_iff, decide_eq_true_iff] at hc
  have hlow : 48 ≤ c.toNat := hc.1
  have hhigh : c.toNat ≤ 57 := hc.2
  have h := hall (c.toNat - 48) (by omega)
  rwa [Nat.add_sub_cancel' hlow, Char.ofNat_toNat] at h

theorem ofNat_ne_nil (n : ℕ) : Text.ofNat n ≠ [] := by
  rw [Text.ofNat, Nat.toList_repr]
  exact Nat.toDigits_ne_nil

theorem decimalDigit?_of_isDigit (hc : c.isDigit = true) :
    decimalDigit? c = some (c.toNat - '0'.toNat) :=
  of_isDigit (p := fun c => decimalDigit? c = some (c.toNat - '0'.toNat)) (by decide +kernel) hc

theorem digitsValue_eq (hs : IsDigits s) : digitsValue s = Nat.ofDigitChars 10 s 0 := by
  rw [Nat.ofDigitChars_eq_foldl, digitsValue]
  apply List.foldl_ext
  intro value c hc
  rw [decimalDigit?_of_isDigit (hs c hc), Option.getD_some]

theorem digitsValue_append_zeros (hs : IsDigits s) (n : ℕ) :
    digitsValue (s ++ List.replicate n '0') = digitsValue s * 10 ^ n := by
  rw [digitsValue_eq (isDigits_append.2 ⟨hs, isDigits_zeros n⟩), Nat.ofDigitChars_append,
    Nat.ofDigitChars_replicate_zero, digitsValue_eq hs, Nat.mul_comm]

theorem digitsValue_zeros_append (hs : IsDigits s) (n : ℕ) :
    digitsValue (List.replicate n '0' ++ s) = digitsValue s := by
  rw [digitsValue_eq (isDigits_append.2 ⟨isDigits_zeros n, hs⟩), Nat.ofDigitChars_append,
    Nat.ofDigitChars_replicate_zero, Nat.mul_zero, digitsValue_eq hs]

theorem digitsValue_ofNat (n : ℕ) : digitsValue (Text.ofNat n) = n := by
  rw [digitsValue_eq (isDigits_ofNat n), Text.ofNat, Nat.toList_repr, Nat.ofDigitChars_ten_toDigits]

namespace Decimal

variable {negative : Bool} {coefficient : ℕ} {exponent : ℤ}

/-! ## Digits with a point -/

/-- The text writes the coefficient times the power of ten, as digits with or without a point. -/
inductive Positional : Text → ℕ → ℤ → Prop
  | whole {s : Text} (hnil : s ≠ []) (hs : IsDigits s) : Positional s (digitsValue s) 0
  | pointed {s t : Text} (hnil : s ≠ []) (hs : IsDigits s) (ht : IsDigits t) :
      Positional (s ++ '.' :: t) (digitsValue (s ++ t)) (-(t.length : ℤ))

theorem Positional.isPlain (h : Positional s coefficient exponent) : IsPlain s := by
  cases h with
  | whole _ hs => exact hs.isPlain
  | pointed _ hs ht =>
    refine isPlain_append.2 ⟨hs.isPlain, fun c hc => ?_⟩
    rcases List.mem_cons.1 hc with rfl | hc
    · exact Or.inr rfl
    · exact ht.isPlain c hc

theorem Positional.exists_cons (h : Positional s coefficient exponent) :
    ∃ c rest, s = c :: rest ∧ c.isDigit = true := by
  cases h with
  | whole hnil hs =>
    obtain ⟨c, rest, rfl⟩ := List.exists_cons_of_ne_nil hnil
    exact ⟨c, rest, rfl, hs c List.mem_cons_self⟩
  | pointed hnil hs =>
    obtain ⟨c, rest, rfl⟩ := List.exists_cons_of_ne_nil hnil
    exact ⟨c, _, rfl, hs c List.mem_cons_self⟩

/-- **The printer puts digits there that write the number.** -/
theorem positional_withPoint (coefficient : ℕ) (exponent : ℤ) :
    Positional (withPoint (Text.ofNat coefficient) (exponent + (Text.ofNat coefficient).length))
      (coefficient * 10 ^ exponent.toNat) (min exponent 0) := by
  have hdigits := isDigits_ofNat coefficient
  have hnil := ofNat_ne_nil coefficient
  have hvalue := digitsValue_ofNat coefficient
  generalize Text.ofNat coefficient = digits at *
  subst hvalue
  unfold withPoint
  split
  · -- the point and zeros come before the digits
    rename_i hplace
    have hexponent : exponent.toNat = 0 := by omega
    have hlength : min exponent 0 =
        -((List.replicate (-(exponent + digits.length)).toNat '0' ++ digits).length : ℤ) := by
      rw [List.length_append, List.length_replicate]
      omega
    have hzeros : IsDigits (List.replicate (-(exponent + digits.length)).toNat '0' ++ digits) :=
      isDigits_append.2 ⟨isDigits_zeros _, hdigits⟩
    have hcoefficient : digitsValue digits * 10 ^ exponent.toNat = digitsValue
        (['0'] ++ (List.replicate (-(exponent + digits.length)).toNat '0' ++ digits)) := by
      rw [hexponent, pow_zero, mul_one]
      exact ((digitsValue_zeros_append hzeros 1).trans (digitsValue_zeros_append hdigits _)).symm
    rw [hlength, hcoefficient]
    exact .pointed (List.cons_ne_nil _ _) (isDigits_zeros 1) hzeros
  split
  · -- zeros come after the digits
    rename_i hplace hzeros
    have hlength : (exponent + digits.length).toNat - digits.length = exponent.toNat := by omega
    rw [hlength, ← digitsValue_append_zeros hdigits, min_eq_right (by omega)]
    exact .whole (by simp [hnil]) (isDigits_append.2 ⟨hdigits, isDigits_zeros _⟩)
  · -- the point comes between the digits
    rename_i hplace hpoint
    have hsplit := List.take_append_drop (exponent + digits.length).toNat digits
    have hexponent : exponent.toNat = 0 := by omega
    have hlength : min exponent 0 = -((digits.drop (exponent + digits.length).toNat).length : ℤ) := by
      rw [List.length_drop]
      omega
    obtain ⟨hwhole, hfraction⟩ := isDigits_append.1 (hsplit.symm ▸ hdigits)
    have hcoefficient : digitsValue digits * 10 ^ exponent.toNat =
        digitsValue (digits.take (exponent + digits.length).toNat ++
          digits.drop (exponent + digits.length).toNat) := by
      rw [hexponent, pow_zero, mul_one, hsplit]
    rw [hlength, hcoefficient]
    refine .pointed ?_ hwhole hfraction
    intro htake
    have hzero := congrArg List.length htake
    rw [List.length_take, List.length_nil] at hzero
    omega

/-! ## The reader -/

theorem readFinite_positional (h : Positional s coefficient exponent) :
    readFinite negative s = limited negative coefficient exponent := by
  unfold readFinite
  cases h with
  | whole hnil hs =>
    rw [List.takeWhile_eq_self_iff.2 hs, List.dropWhile_eq_nil_iff.2 hs]
    simp [hnil, readExponent]
  | @pointed s t hnil hs ht =>
    have hpoint : ∀ c ∈ ('.' :: t).head?, c.isDigit = false := by
      rintro c hc
      cases hc
      rfl
    rw [takeWhile_run_append hs hpoint, dropWhile_run_append hs hpoint]
    simp only [List.takeWhile_eq_self_iff.2 ht, List.dropWhile_eq_nil_iff.2 ht]
    simp [hnil, readExponent]

/-- A text of ASCII characters without underscores is taken as it is. -/
theorem toAscii_eq_self (h : ∀ c ∈ s, c ≠ '_' ∧ 0 < c.toNat ∧ c.toNat < 128) :
    toAscii s = some s := by
  induction s with
  | nil => rfl
  | cons c s ih =>
    obtain ⟨hunderscore, hascii⟩ := h c List.mem_cons_self
    rw [toAscii, if_neg hunderscore, if_pos hascii, ih fun d hd => h d (List.mem_cons_of_mem c hd)]
    rfl

/-- Neither a sign, nor the first letter of a word for what is no finite decimal. -/
theorem first_of_isDigit (hc : c.isDigit = true) :
    c ≠ '-' ∧ c ≠ '+' ∧ c.toLower ≠ 'i' ∧ c.toLower ≠ 'n' ∧ c.toLower ≠ 's' :=
  of_isDigit (p := fun c => c ≠ '-' ∧ c ≠ '+' ∧ c.toLower ≠ 'i' ∧ c.toLower ≠ 'n' ∧
    c.toLower ≠ 's') (by decide +kernel) hc

theorem readAscii_positional (h : Positional s coefficient exponent) :
    readAscii (sign negative ++ s) = limited negative coefficient exponent := by
  rw [← readFinite_positional h]
  obtain ⟨c, rest, rfl, hc⟩ := h.exists_cons
  obtain ⟨hminus, hplus, hi, hn, hs⟩ := first_of_isDigit hc
  have hsign : cutSign (sign negative ++ c :: rest) = (negative, c :: rest) := by
    cases negative with
    | true => rfl
    | false =>
      show cutSign (c :: rest) = _
      unfold cutSign
      split
      · rename_i heq
        exact absurd (List.cons.inj heq).1 hminus
      · rename_i heq
        exact absurd (List.cons.inj heq).1 hplus
      · rfl
  unfold readAscii
  rw [hsign]
  dsimp only
  rw [List.map_cons, if_neg, if_neg, if_neg]
  · rintro ⟨h, -⟩
    exact hs (List.cons.inj h).1
  · rintro ⟨h, -⟩
    exact hn (List.cons.inj h).1
  · rintro (h | h)
    · exact hi (List.cons.inj h).1
    · exact hi (List.cons.inj h).1

/-- Digits, points and signs are no blanks, and the reader takes them as they are. -/
theorem plain_char (hc : c.isDigit = true ∨ c = '.' ∨ c = '-') :
    isBlank c = false ∧ c ≠ '_' ∧ 0 < c.toNat ∧ c.toNat < 128 := by
  rcases hc with hc | rfl | rfl
  · exact of_isDigit (p := fun c => isBlank c = false ∧ c ≠ '_' ∧ 0 < c.toNat ∧ c.toNat < 128)
      (by decide +kernel) hc
  · decide
  · decide

/-- **A decimal that is written without an exponent is read back as the same number**, the zeros that
the exponent stands for having been put into the coefficient. -/
theorem read_plain (negative : Bool)
    (hhigh : scientificExponent coefficient exponent ≤ writtenMaxExponent)
    (hlow : writtenMinExponent ≤ exponent) : read (finite negative coefficient exponent).plain =
      .ok (finite negative (coefficient * 10 ^ exponent.toNat) (min exponent 0)) := by
  have hpositional := positional_withPoint coefficient exponent
  have hchars : ∀ c ∈ (finite negative coefficient exponent).plain,
      c.isDigit = true ∨ c = '.' ∨ c = '-' := by
    intro c hc
    rcases List.mem_append.1 hc with hsign | hbody
    · cases negative with
      | true => exact Or.inr (Or.inr (List.mem_singleton.1 hsign))
      | false => cases hsign
    · exact (hpositional.isPlain c hbody).imp_right Or.inl
  have htrim : Text.trim (finite negative coefficient exponent).plain =
      (finite negative coefficient exponent).plain :=
    Text.trim_eq_self (fun c hc => (plain_char (hchars c (List.mem_of_mem_head? hc))).1)
      (fun c hc => (plain_char (hchars c (List.mem_of_getLast? hc))).1)
  rw [read, htrim, toAscii_eq_self fun c hc => (plain_char (hchars c hc)).2]
  show readAscii (sign negative ++ _) = _
  rw [readAscii_positional hpositional, limited, if_neg]
  rw [not_or, not_lt, not_lt]
  refine ⟨?_, by unfold writtenMinExponent at *; omega⟩
  -- the zeros that are put into the coefficient are as many as the exponent says
  have hdigits : digitCount (coefficient * 10 ^ exponent.toNat) ≤
      digitCount coefficient + exponent.toNat := by
    have := digitCount_pos coefficient
    rw [digitCount_le_iff (by omega), pow_add]
    exact Nat.mul_lt_mul_of_pos_right (lt_pow_digitCount coefficient) (by positivity)
  unfold scientificExponent at *
  omega

/-- The number that is read back is the number that was written. -/
theorem toRat_shifted (negative : Bool) (coefficient : ℕ) (exponent : ℤ) :
    (finite negative (coefficient * 10 ^ exponent.toNat) (min exponent 0)).toRat =
      (finite negative coefficient exponent).toRat := by
  have hexponent : min exponent 0 + exponent.toNat = exponent := by omega
  simp only [toRat, mul_assoc, shifted_eq, hexponent]

/-- Nothing in the format is beyond the limits of what can be written. -/
theorem InFormat.read_plain {d : Decimal} (hd : d.InFormat) : ∃ e, read d.plain = .ok e ∧
    e.IsFinite ∧ e.isNegative = d.isNegative ∧ e.toRat = d.toRat := by
  obtain ⟨negative, coefficient, exponent, rfl, -, hlow, hhigh⟩ := hd
  have hmax : maxExponent ≤ writtenMaxExponent := by decide
  have hmin : writtenMinExponent ≤ minExponent := by decide
  exact ⟨_, Decimal.read_plain negative (hhigh.trans hmax) (hmin.trans hlow), ⟨_, _, _, rfl⟩, rfl,
    toRat_shifted negative coefficient exponent⟩

end Decimal

/-- **The credits that a reply names are read back as the amount**, with its sign. -/
theorem Market.read_creditsText {d : Decimal} (hd : d.InFormat) :
    ∃ e, Decimal.read (creditsText d) = .ok e ∧ e.IsFinite ∧ e.isNegative = d.isNegative ∧
      e.toRat = d.toRat := by
  obtain ⟨hreduced, hsign, hnumber⟩ := Decimal.reduce_spec hd
  obtain ⟨e, hread, hfinite, hsign', hnumber'⟩ := hreduced.read_plain
  exact ⟨e, hread, hfinite, hsign'.trans hsign, hnumber'.trans hnumber⟩

end Tradespeak
