import Tradespeak.Proofs.Numeral.Greedy

/-!
# The scan of digits

One lemma for each step of the scan (`worth_subtractive`, `worth_additive`, `worthAfter_equal`,
`worthAfter_ascent`, `worthAfter_descent`), and from them:

* `Unpaired` — no digit held back before the text pairs with its beginning, so that it is added.
* `worth_group`, `unpaired_group` — the scan of a group of digits adds the value of its decimal
  digit, and a digit held back from a higher place does not disturb it.
* `worth_layout` — the scan returns the number from its layout.
-/

set_option autoImplicit false

namespace Tradespeak.Numeral

theorem worth_subtractive {c : Char} {s : Text} (hc : isSubtractive c = true) :
    worth (c :: s) = worthAfter (some c) s := by
  simp [worth, worthAfter, hc]

theorem worth_additive {c : Char} {s : Text} (hc : isSubtractive c = false) :
    worth (c :: s) = digitWorth c + worth s := by
  simp [worth, worthAfter, hc]

theorem worthAfter_equal (c : Char) (s : Text) :
    worthAfter (some c) (c :: s) = 2 * digitWorth c + worth s := by
  simp [worthAfter, worth, Nat.two_mul]

theorem worthAfter_ascent {held c : Char} {s : Text} (h : digitWorth held < digitWorth c) :
    worthAfter (some held) (c :: s) = digitWorth c - digitWorth held + worth s := by
  have hne : held ≠ c := by rintro rfl; omega
  simp [worthAfter, worth, hne, h]

theorem worthAfter_descent {held c : Char} {s : Text} (h : digitWorth c < digitWorth held) :
    worthAfter (some held) (c :: s) = digitWorth held + worthAfter (some c) s := by
  have hne : held ≠ c := by rintro rfl; omega
  simp [worthAfter, hne, Nat.not_lt_of_lt h]

/-- No digit worth at least the bound pairs with the beginning of the text. -/
def Unpaired (bound : Nat) (s : Text) : Prop :=
  ∀ held, bound ≤ digitWorth held → worthAfter (some held) s = digitWorth held + worth s

theorem unpaired_nil (bound : Nat) : Unpaired bound [] := fun _ _ => rfl

theorem Unpaired.mono {low high : Nat} {s : Text} (h : Unpaired low s) (hle : low ≤ high) :
    Unpaired high s := fun held hheld => h held (by omega)

theorem unpaired_of_subtractive {bound : Nat} {c : Char} {s : Text} (hc : isSubtractive c = true)
    (hlt : digitWorth c < bound) : Unpaired bound (c :: s) := by
  intro held hheld
  rw [worthAfter_descent (by omega), worth_subtractive hc]

/-- A digit that is never taken away may stay held back itself, so what follows has to be
unpaired too. -/
theorem unpaired_of_additive {bound : Nat} {c : Char} {s : Text} (hc : isSubtractive c = false)
    (hlt : digitWorth c < bound) (hs : Unpaired (digitWorth c) s) : Unpaired bound (c :: s) := by
  intro held hheld
  rw [worthAfter_descent (by omega), hs c (Nat.le_refl _), worth_additive hc]

/-- What the signs of a place are worth, and that only the first may be taken away. -/
structure Place.Weighs (place : Place) (unit : Nat) : Prop where
  pos : 0 < unit
  one : digitWorth place.one = unit
  five : digitWorth place.five = 5 * unit
  ten : digitWorth place.ten = 10 * unit
  one_subtractive : isSubtractive place.one = true
  five_additive : isSubtractive place.five = false

theorem units_weighs : Place.units.Weighs 1 := by constructor <;> decide
theorem tens_weighs : Place.tens.Weighs 10 := by constructor <;> decide
theorem hundreds_weighs : Place.hundreds.Weighs 100 := by constructor <;> decide

variable {place : Place} {unit : Nat} {rest : Text}

theorem worth_ones (hp : place.Weighs unit) (hrest : Unpaired unit rest) {k : Nat} (hk : k ≤ 3) :
    worth (List.replicate k place.one ++ rest) = unit * k + worth rest := by
  have hone : worth (place.one :: rest) = unit + worth rest := by
    rw [worth_subtractive hp.one_subtractive, hrest place.one (by rw [hp.one]), hp.one]
  have hpair : ∀ s, worth (place.one :: place.one :: s) = 2 * unit + worth s := by
    intro s
    rw [worth_subtractive hp.one_subtractive, worthAfter_equal, hp.one]
  interval_cases k
  · simp
  · simp [List.replicate, hone]
  · simp [List.replicate, hpair, Nat.mul_comm]
  · simp only [List.replicate, List.cons_append, List.nil_append, hpair, hone]
    omega

theorem unpaired_ones (hp : place.Weighs unit) (hrest : Unpaired unit rest) (k : Nat) :
    Unpaired (5 * unit) (List.replicate k place.one ++ rest) := by
  have hpos := hp.pos
  cases k with
  | zero => exact hrest.mono (by omega)
  | succ k =>
    exact unpaired_of_subtractive hp.one_subtractive (by rw [hp.one]; omega)

/-- **The scan of a group** adds the value of its decimal digit. -/
theorem worth_group (hp : place.Weighs unit) (hrest : Unpaired unit rest) {d : Nat} (hd : d < 10) :
    worth (place.group d ++ rest) = unit * d + worth rest := by
  have hpos := hp.pos
  unfold Place.group
  split
  · subst d
    rw [List.cons_append, worth_subtractive hp.one_subtractive, List.cons_append,
      worthAfter_ascent (by rw [hp.one, hp.ten]; omega), hp.one, hp.ten, List.nil_append]
    omega
  split
  · subst d
    rw [List.cons_append, worth_subtractive hp.one_subtractive, List.cons_append,
      worthAfter_ascent (by rw [hp.one, hp.five]; omega), hp.one, hp.five, List.nil_append]
    omega
  split
  · obtain ⟨k, rfl⟩ : ∃ k, d = k + 5 := ⟨d - 5, by omega⟩
    rw [List.cons_append, worth_additive hp.five_additive, hp.five,
      worth_ones hp hrest (by omega), Nat.add_sub_cancel, Nat.mul_add]
    omega
  · exact worth_ones hp hrest (by omega)

/-- A group leaves nothing for a digit of a higher place to pair with. -/
theorem unpaired_group (hp : place.Weighs unit) (hrest : Unpaired unit rest) (d : Nat) :
    Unpaired (10 * unit) (place.group d ++ rest) := by
  have hpos := hp.pos
  unfold Place.group
  split
  · exact unpaired_of_subtractive hp.one_subtractive (by rw [hp.one]; omega)
  split
  · exact unpaired_of_subtractive hp.one_subtractive (by rw [hp.one]; omega)
  split
  · refine unpaired_of_additive hp.five_additive (by rw [hp.five]; omega) ?_
    rw [hp.five]
    exact unpaired_ones hp hrest _
  · exact (unpaired_ones hp hrest d).mono (by omega)

theorem worth_thousands (k : Nat) (rest : Text) :
    worth (List.replicate k 'M' ++ rest) = 1000 * k + worth rest := by
  induction k with
  | zero => simp
  | succ k ih =>
    have hM : worth ('M' :: (List.replicate k 'M' ++ rest)) =
        1000 + worth (List.replicate k 'M' ++ rest) := rfl
    rw [List.replicate_succ, List.cons_append, hM, ih]
    omega

/-- **The scan returns the number from its layout.** -/
theorem worth_layout (n : Nat) : worth (layout n) = n := by
  have hu := worth_group units_weighs (unpaired_nil 1) (by omega : n % 10 < 10)
  have hu' := unpaired_group units_weighs (unpaired_nil 1) (n % 10)
  have ht := worth_group tens_weighs hu' (by omega : n / 10 % 10 < 10)
  have ht' := unpaired_group tens_weighs hu' (n / 10 % 10)
  have hh := worth_group hundreds_weighs ht' (by omega : n / 100 % 10 < 10)
  rw [List.append_nil] at hu hh ht
  have hnil : worth [] = 0 := rfl
  rw [layout, worth_thousands, hh, ht, hu, hnil]
  omega

theorem worth_ofNat (n : Nat) : worth (ofNat n) = n := by
  rw [ofNat_eq_layout, worth_layout]

theorem ofNat_injective {m n : Nat} (h : ofNat m = ofNat n) : m = n := by
  rw [← worth_ofNat m, h, worth_ofNat]

end Tradespeak.Numeral
