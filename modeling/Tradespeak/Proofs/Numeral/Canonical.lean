import Tradespeak.Proofs.Numeral.Scan

/-!
# Canonical numerals are the greedy encodings

Acceptance, the scan and the greedy encoder are three separate definitions that meet in the layout
of a number.

* `Grammatical` — the grammar of numerals, four groups one after another.
* `Place.after_spec` — what is dropped for a place is a group that the grammar allows there.
* `Grammatical.exists_layout` — a grammatical text is the layout of a number from 1 to 3999.
* `Place.after_group` — a group of its place is dropped whole, and nothing more, so that these
  layouts are accepted.

Principal result: `canonical_iff_greedy`.
-/

set_option autoImplicit false

namespace Tradespeak.Numeral

variable {place : Place} {rest : Text}

/-! ## The grammar -/

/-- The groups that the grammar of numerals allows for a place: nine, four, or an optional five and
at most three ones. -/
def Place.Allows (place : Place) (g : Text) : Prop :=
  g = [place.one, place.ten] ∨ g = [place.one, place.five] ∨
    ∃ j k, j ≤ 1 ∧ k ≤ 3 ∧ g = List.replicate j place.five ++ List.replicate k place.one

/-- The grammar of numerals: at most three thousands, then a group for each decimal place, not all
of them empty. -/
def Grammatical (s : Text) : Prop :=
  s ≠ [] ∧ ∃ m h t u, m ≤ 3 ∧ Place.hundreds.Allows h ∧ Place.tens.Allows t ∧
    Place.units.Allows u ∧ s = List.replicate m 'M' ++ (h ++ (t ++ u))

/-! ## Accepted texts are grammatical -/

theorem dropCopies_spec (c : Char) :
    ∀ (n : Nat) (s : Text), ∃ k ≤ n, s = List.replicate k c ++ dropCopies c n s
  | 0, s => ⟨0, Nat.le_refl _, rfl⟩
  | n + 1, [] => ⟨0, Nat.zero_le _, rfl⟩
  | n + 1, d :: rest => by
    obtain ⟨k, hk, hrest⟩ := dropCopies_spec c n rest
    rw [dropCopies]
    split
    · rename_i hd
      subst d
      exact ⟨k + 1, by omega, by rw [List.replicate_succ, List.cons_append, ← hrest]⟩
    · exact ⟨0, by omega, rfl⟩

theorem dropCopies_replicate {c : Char} {s : Text} (hs : ∀ d ∈ s.head?, d ≠ c) :
    ∀ {n k : Nat}, k ≤ n → dropCopies c n (List.replicate k c ++ s) = s
  | 0, 0, _ => rfl
  | n + 1, 0, _ => by
    cases s with
    | nil => rfl
    | cons d rest => exact if_neg (hs d rfl)
  | n + 1, k + 1, hk => by
    rw [List.replicate_succ, List.cons_append, dropCopies, if_pos rfl]
    exact dropCopies_replicate hs (by omega)

/-- What is dropped for a place is a group that the grammar allows there. -/
theorem Place.after_spec (place : Place) (s : Text) :
    ∃ g, place.Allows g ∧ s = g ++ place.after s := by
  have hdrop : ∀ t, ∃ g, place.Allows g ∧
      t = g ++ dropCopies place.one 3 (dropCopies place.five 1 t) := by
    intro t
    obtain ⟨j, hj, hfive⟩ := dropCopies_spec place.five 1 t
    obtain ⟨k, hk, hone⟩ := dropCopies_spec place.one 3 (dropCopies place.five 1 t)
    refine ⟨List.replicate j place.five ++ List.replicate k place.one,
      Or.inr (Or.inr ⟨j, k, hj, hk, rfl⟩), ?_⟩
    rw [List.append_assoc, ← hone, ← hfive]
  unfold Place.after
  split
  · rename_i a b rest
    split
    · rename_i hab
      obtain ⟨rfl, rfl | rfl⟩ := hab
      · exact ⟨[place.one, place.ten], Or.inl rfl, rfl⟩
      · exact ⟨[place.one, place.five], Or.inr (Or.inl rfl), rfl⟩
    · exact hdrop _
  · exact hdrop _

theorem grammatical_of_hasCanonicalForm {s : Text} (hs : hasCanonicalForm s = true) :
    Grammatical s := by
  rw [hasCanonicalForm, decide_eq_true_iff] at hs
  obtain ⟨hne, hend⟩ := hs
  obtain ⟨m, hm, hthousands⟩ := dropCopies_spec 'M' 3 s
  obtain ⟨h, hh, hhundreds⟩ := Place.hundreds.after_spec (dropCopies 'M' 3 s)
  obtain ⟨t, ht, htens⟩ := Place.tens.after_spec (Place.hundreds.after (dropCopies 'M' 3 s))
  obtain ⟨u, hu, hunits⟩ :=
    Place.units.after_spec (Place.tens.after (Place.hundreds.after (dropCopies 'M' 3 s)))
  rw [hend, List.append_nil] at hunits
  refine ⟨hne, m, h, t, u, hm, hh, ht, hu, ?_⟩
  rw [← hunits, ← htens, ← hhundreds]
  exact hthousands

/-! ## Layouts are grammatical and accepted -/

theorem Place.group_ones (place : Place) {k : Nat} (hk : k ≤ 3) :
    place.group k = List.replicate k place.one := by
  rw [Place.group, if_neg (by omega), if_neg (by omega), if_neg (by omega)]

theorem Place.group_five (place : Place) {k : Nat} (hk : k ≤ 3) :
    place.group (5 + k) = place.five :: List.replicate k place.one := by
  rw [Place.group, if_neg (by omega), if_neg (by omega), if_pos (by omega), Nat.add_sub_cancel_left]

/-- The grammar allows one group for each decimal digit. -/
theorem Place.Allows.exists_group {place : Place} {g : Text} (h : place.Allows g) :
    ∃ d < 10, g = place.group d := by
  rcases h with rfl | rfl | ⟨j, k, hj, hk, rfl⟩
  · exact ⟨9, by omega, rfl⟩
  · exact ⟨4, by omega, rfl⟩
  · rcases (by omega : j = 0 ∨ j = 1) with rfl | rfl
    · exact ⟨k, by omega, (place.group_ones hk).symm⟩
    · exact ⟨5 + k, by omega, (place.group_five hk).symm⟩

/-- A grammatical text is the layout of a number, since each group writes a decimal digit. -/
theorem Grammatical.exists_layout {s : Text} (hs : Grammatical s) :
    ∃ n, 1 ≤ n ∧ n ≤ 3999 ∧ s = layout n := by
  obtain ⟨hne, m, _, _, _, hm, hh, ht, hu, rfl⟩ := hs
  obtain ⟨h, hh, rfl⟩ := hh.exists_group
  obtain ⟨t, ht, rfl⟩ := ht.exists_group
  obtain ⟨u, hu, rfl⟩ := hu.exists_group
  have hn : List.replicate m 'M' ++ (Place.hundreds.group h ++
      (Place.tens.group t ++ Place.units.group u)) = layout (1000 * m + 100 * h + 10 * t + u) := by
    rw [layout, (by omega : (1000 * m + 100 * h + 10 * t + u) / 1000 = m),
      (by omega : (1000 * m + 100 * h + 10 * t + u) / 100 % 10 = h),
      (by omega : (1000 * m + 100 * h + 10 * t + u) / 10 % 10 = t),
      (by omega : (1000 * m + 100 * h + 10 * t + u) % 10 = u)]
  refine ⟨_, Nat.one_le_iff_ne_zero.2 fun hzero => hne ?_, by omega, hn⟩
  rw [hn, hzero]
  rfl

/-- The text begins with none of the signs. -/
def Absent (signs : List Char) (s : Text) : Prop := ∀ c ∈ s.head?, c ∉ signs

theorem absent_nil (signs : List Char) : Absent signs [] := fun _ hc => by cases hc

theorem absent_cons {signs : List Char} {c : Char} (hc : c ∉ signs) (s : Text) :
    Absent signs (c :: s) := by
  intro d hd
  cases hd
  exact hc

/-- The signs of a place. -/
def Place.signs (place : Place) : List Char := [place.one, place.five, place.ten]

/-- A group begins with the one or the five of its place. -/
theorem absent_group {place : Place} {signs : List Char} {rest : Text} (hone : place.one ∉ signs)
    (hfive : place.five ∉ signs) (hrest : Absent signs rest) (d : Nat) :
    Absent signs (place.group d ++ rest) := by
  unfold Place.group
  split
  · exact absent_cons hone _
  split
  · exact absent_cons hone _
  split
  · exact absent_cons hfive _
  · cases d with
    | zero => exact hrest
    | succ d => exact absent_cons hone _

/-- Only a one before a ten or a five is dropped as a pair. -/
theorem Place.after_eq_dropCopies {place : Place} {s : Text}
    (h : ∀ b rest, s = place.one :: b :: rest → b ≠ place.ten ∧ b ≠ place.five) :
    place.after s = dropCopies place.one 3 (dropCopies place.five 1 s) := by
  unfold Place.after
  split
  · rename_i a b rest
    split
    · rename_i hab
      obtain ⟨rfl, hb⟩ := hab
      obtain ⟨h10, h5⟩ := h b rest rfl
      exact absurd hb (by simp [h10, h5])
    · rfl
  · rfl

/-- What a text that follows the ones of a place may not begin with. -/
theorem ne_of_absent {place : Place} {c : Char} {s : Text} (h : Absent place.signs (c :: s)) :
    c ≠ place.one ∧ c ≠ place.five ∧ c ≠ place.ten := by
  simpa [Place.signs] using h c rfl

theorem dropCopies_ones (hrest : Absent place.signs rest) {k : Nat} (hk : k ≤ 3) :
    dropCopies place.one 3 (List.replicate k place.one ++ rest) = rest := by
  refine dropCopies_replicate (fun c hc => ?_) hk
  cases rest with
  | nil => cases hc
  | cons d s => cases hc; exact (ne_of_absent hrest).1

variable (h15 : place.one ≠ place.five) (h110 : place.one ≠ place.ten)
  (hrest : Absent place.signs rest)
include h15 h110 hrest

theorem Place.after_ones {k : Nat} (hk : k ≤ 3) :
    place.after (List.replicate k place.one ++ rest) = rest := by
  have hfive : dropCopies place.five 1 (List.replicate k place.one ++ rest) =
      List.replicate k place.one ++ rest := by
    refine dropCopies_replicate (k := 0) (fun c hc => ?_) (by omega)
    match k, rest with
    | 0, [] => cases hc
    | 0, d :: s => cases hc; exact (ne_of_absent hrest).2.1
    | k + 1, _ => cases hc; exact h15
  rw [Place.after_eq_dropCopies, hfive, dropCopies_ones hrest hk]
  intro b t hs
  match k with
  | 0 =>
    rw [List.replicate_zero, List.nil_append] at hs
    subst hs
    exact absurd rfl (ne_of_absent hrest).1
  | 1 =>
    cases hs
    exact ⟨(ne_of_absent hrest).2.2, (ne_of_absent hrest).2.1⟩
  | k + 2 =>
    cases hs
    exact ⟨h110, h15⟩

/-- A group of its place is dropped whole, and nothing more. -/
theorem Place.after_group {d : Nat} (hd : d < 10) : place.after (place.group d ++ rest) = rest := by
  unfold Place.group
  split
  · simp [Place.after]
  split
  · simp [Place.after]
  split
  · have hfive :
        dropCopies place.five 1 (place.five :: (List.replicate (d - 5) place.one ++ rest)) =
          List.replicate (d - 5) place.one ++ rest := by
      simp [dropCopies]
    rw [List.cons_append, Place.after_eq_dropCopies, hfive, dropCopies_ones hrest (by omega)]
    intro b t hs
    exact absurd (List.cons.inj hs).1.symm h15
  · exact Place.after_ones h15 h110 hrest (by omega)

omit h15 h110 hrest

theorem hasCanonicalForm_layout {n : Nat} (hpos : 1 ≤ n) (hle : n ≤ 3999) :
    hasCanonicalForm (layout n) = true := by
  have hunits : ∀ signs, Place.units.one ∉ signs → Place.units.five ∉ signs →
      Absent signs (Place.units.group (n % 10) ++ []) :=
    fun _ h1 h5 => absent_group h1 h5 (absent_nil _) _
  have htens : ∀ signs, 'I' ∉ signs → 'V' ∉ signs → 'X' ∉ signs → 'L' ∉ signs →
      Absent signs (Place.tens.group (n / 10 % 10) ++ (Place.units.group (n % 10) ++ [])) :=
    fun signs hI hV hX hL => absent_group hX hL (hunits signs hI hV) _
  have hthousands : Absent ['M'] (Place.hundreds.group (n / 100 % 10) ++
      (Place.tens.group (n / 10 % 10) ++ (Place.units.group (n % 10) ++ []))) :=
    absent_group (by decide) (by decide)
      (htens _ (by decide) (by decide) (by decide) (by decide)) _
  rw [hasCanonicalForm, decide_eq_true_iff]
  refine ⟨fun hnil => ?_, ?_⟩
  · have hn := worth_layout n
    rw [hnil] at hn
    have hzero : worth [] = 0 := rfl
    omega
  · rw [layout, ← List.append_nil (Place.units.group _),
      dropCopies_replicate (fun c hc => by simpa using hthousands c hc) (by omega),
      Place.after_group (by decide) (by decide)
        (htens _ (by decide) (by decide) (by decide) (by decide)) (by omega),
      Place.after_group (by decide) (by decide) (hunits _ (by decide) (by decide)) (by omega),
      Place.after_group (by decide) (by decide) (absent_nil _) (by omega)]

/-- **Acceptance is the grammar.** -/
theorem hasCanonicalForm_iff_grammatical {s : Text} :
    hasCanonicalForm s = true ↔ Grammatical s := by
  refine ⟨grammatical_of_hasCanonicalForm, fun hs => ?_⟩
  obtain ⟨n, hpos, hle, rfl⟩ := hs.exists_layout
  exact hasCanonicalForm_layout hpos hle

/-- **Acceptance is being the greedy encoding of a number from 1 to 3999.** -/
theorem hasCanonicalForm_iff_ofNat {s : Text} :
    hasCanonicalForm s = true ↔ ∃ n, 1 ≤ n ∧ n ≤ 3999 ∧ s = ofNat n := by
  simp only [ofNat_eq_layout]
  constructor
  · intro hs
    exact (grammatical_of_hasCanonicalForm hs).exists_layout
  · rintro ⟨n, hpos, hle, rfl⟩
    exact hasCanonicalForm_layout hpos hle

/-! ## Reading numerals -/

/-- The value of every numeral lies between 1 and 3999. -/
theorem value_bounds (numeral : Numeral) : 1 ≤ numeral.value ∧ numeral.value ≤ 3999 := by
  obtain ⟨n, hpos, hle, hdigits⟩ := hasCanonicalForm_iff_ofNat.1 numeral.canonical
  rw [value, hdigits, worth_ofNat]
  exact ⟨hpos, hle⟩

theorem read_ofNat {n : Nat} (hpos : 1 ≤ n) (hle : n ≤ 3999) :
    ∃ numeral, read (ofNat n) = .ok numeral ∧ numeral.digits = ofNat n ∧ numeral.value = n := by
  have hform : hasCanonicalForm (ofNat n) = true := hasCanonicalForm_iff_ofNat.2 ⟨n, hpos, hle, rfl⟩
  exact ⟨⟨ofNat n, hform⟩, by rw [read, dif_pos hform], rfl, worth_ofNat n⟩

theorem read_eq_error {s : Text} (h : ¬ ∃ n, 1 ≤ n ∧ n ≤ 3999 ∧ s = ofNat n) :
    read s = .error (.notANumeral s) := by
  rw [read, dif_neg (fun hform => h (hasCanonicalForm_iff_ofNat.1 hform))]

/-- **Canonical form is the grammar, and it is being the greedy encoding of a number from 1 to
3999.**  There is only one such number, and it is the value of the numeral that is read.  Every
other text is refused and carried by the refusal, the empty one and any that ends with a line break
among them. -/
theorem canonical_iff_greedy (s : Text) :
    (hasCanonicalForm s = true ↔ Grammatical s) ∧
      (hasCanonicalForm s = true ↔ ∃ n, 1 ≤ n ∧ n ≤ 3999 ∧ Greedy n s) ∧
      (∀ n, 1 ≤ n → n ≤ 3999 → Greedy n s →
        (∀ m, Greedy m s → m = n) ∧
          ∃ numeral, read s = .ok numeral ∧ numeral.digits = s ∧ numeral.value = n) ∧
      ((¬ ∃ n, 1 ≤ n ∧ n ≤ 3999 ∧ Greedy n s) → read s = .error (.notANumeral s)) ∧
      read [] = .error (.notANumeral []) ∧
      read (s ++ ['\n']) = .error (.notANumeral (s ++ ['\n'])) := by
  simp only [greedy_iff]
  refine ⟨hasCanonicalForm_iff_grammatical, hasCanonicalForm_iff_ofNat, ?_, read_eq_error, ?_, ?_⟩
  · rintro n hpos hle rfl
    exact ⟨fun m hm => (ofNat_injective hm).symm, read_ofNat hpos hle⟩
  · apply read_eq_error
    rintro ⟨n, hpos, -, hn⟩
    have hzero : ofNat n = ofNat 0 := by rw [← hn]; rfl
    have := ofNat_injective hzero
    omega
  · apply read_eq_error
    rintro ⟨n, -, -, hn⟩
    have hmem : '\n' ∈ ofNat n := by rw [← hn]; simp
    exact absurd (mem_ofNat hmem) (by decide)

end Tradespeak.Numeral
