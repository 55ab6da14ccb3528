import Tradespeak.Proofs.Numeral.Canonical

/-!
# The scan and the textbook rule

The textbook reads each digit by itself: it is taken away if the next one is worth more, else added.
The scan may take away less, since it reads digits in pairs and holds at most one of them back.

* `textbookWorth` — the value by the textbook rule, which may be any integer as far as its definition
  goes.
* `IsOrderly` — digits where each one that is smaller than the next may be taken away and comes after a
  larger one, or first.
* `Allowed`, `isOrderly_iff` — the same digit by digit, with the digit before them.
* `worthAfter_bounds`, `worthAfter_eq_textbook` — what the scan adds up from any state.
* `Follows` — what may come after a digit that is worth at least a bound, so that the groups of a
  numeral can be put together (`follows_group`).

Principal result: `worth_textbook` — the scan gives at least the textbook value and at most the sum of
the digits, and just the textbook value on orderly digits, of which numerals are some.
-/

set_option autoImplicit false

namespace Tradespeak.Numeral

/-- **The textbook value**: each digit is added, or taken away if the next one is worth more. -/
def textbookWorth : Text → ℤ
  | [] => 0
  | [c] => digitWorth c
  | c :: d :: rest =>
    (if digitWorth c < digitWorth d then -(digitWorth c : ℤ) else digitWorth c)
      + textbookWorth (d :: rest)

/-- Roman digits where each one that is smaller than the next is one of those that may be taken away,
and stands first or after a larger one. -/
structure IsOrderly (s : Text) : Prop where
  roman : ∀ c ∈ s, c ∈ "IVXLCDM".toList
  ascent : ∀ before c d after, s = before ++ c :: d :: after → digitWorth c < digitWorth d →
    isSubtractive c = true ∧ ∀ b ∈ before.getLast?, digitWorth c < digitWorth b

/-- The same for digits that come after another one, or after none. -/
def Allowed (previous : Option Char) : Text → Prop
  | [] => True
  | [_] => True
  | c :: d :: rest =>
    (digitWorth c < digitWorth d →
      isSubtractive c = true ∧ ∀ b ∈ previous, digitWorth c < digitWorth b) ∧
      Allowed (some c) (d :: rest)

variable {c d : Char} {previous : Option Char} {s rest : Text}

/-! ## The textbook rule -/

theorem textbookWorth_ascent (h : digitWorth c < digitWorth d) (rest : Text) :
    textbookWorth (c :: d :: rest) = textbookWorth (d :: rest) - digitWorth c := by
  rw [textbookWorth, if_pos h]
  omega

/-- A digit that no larger one follows is added. -/
theorem textbookWorth_cons (h : ∀ d ∈ s.head?, digitWorth d ≤ digitWorth c) :
    textbookWorth (c :: s) = digitWorth c + textbookWorth s := by
  cases s with
  | nil => simp [textbookWorth]
  | cons d rest => rw [textbookWorth, if_neg (Nat.not_lt.2 (h d rfl))]

theorem textbookWorth_cons_le (c : Char) (s : Text) :
    textbookWorth (c :: s) ≤ digitWorth c + textbookWorth s := by
  cases s with
  | nil => simp [textbookWorth]
  | cons d rest =>
    rw [textbookWorth]
    split <;> omega

/-! ## Bounds -/

/-- **What the scan adds up**, the digit held back counting as one of the digits: what it takes away,
the textbook takes away too. -/
theorem worthAfter_bounds (held : Option Char) (s : Text) :
    textbookWorth (held.toList ++ s) ≤ worthAfter held s ∧
      worthAfter held s ≤ ((held.toList ++ s).map digitWorth).sum := by
  fun_induction worthAfter held s with
  | case1 => simp [textbookWorth]
  | case2 held => simp [textbookWorth]
  | case3 c rest _ ih => simpa using ih
  | case4 c rest _ ih =>
    have hle := textbookWorth_cons_le c rest
    simp only [Option.toList_none, List.nil_append, List.map_cons, List.sum_cons] at ih ⊢
    omega
  | case5 held rest ih =>
    have hle := textbookWorth_cons_le held rest
    have hpair := textbookWorth_cons_le held (held :: rest)
    simp only [Option.toList_none, Option.toList_some, List.nil_append, List.cons_append,
      List.map_cons, List.sum_cons] at ih ⊢
    omega
  | case6 held c rest _ hascent ih =>
    have hle := textbookWorth_cons_le c rest
    have hpair := textbookWorth_ascent hascent rest
    simp only [Option.toList_none, Option.toList_some, List.nil_append, List.cons_append,
      List.map_cons, List.sum_cons] at ih ⊢
    omega
  | case7 held c rest _ _ ih =>
    have hpair := textbookWorth_cons_le held (c :: rest)
    simp only [Option.toList_some, List.nil_append, List.cons_append, List.map_cons,
      List.sum_cons] at ih ⊢
    omega

/-! ## Orderly digits -/

/-- The digit before a place of the text is the last one before it, or the one before the text. -/
theorem allowed_iff : Allowed previous s ↔ ∀ before c d after, s = before ++ c :: d :: after →
    digitWorth c < digitWorth d → isSubtractive c = true ∧
      ∀ b ∈ (previous.toList ++ before).getLast?, digitWorth c < digitWorth b := by
  induction s generalizing previous with
  | nil => simp [Allowed]
  | cons c s ih =>
    cases s with
    | nil =>
      simp only [Allowed, true_iff]
      intro before c' d after hsplit
      cases before <;> simp at hsplit
    | cons d rest =>
      rw [Allowed, ih]
      constructor
      · rintro ⟨hfirst, hlater⟩ before c' d' after hsplit hascent
        cases before with
        | nil =>
          simp only [List.nil_append, List.cons.injEq] at hsplit
          obtain ⟨rfl, rfl, -⟩ := hsplit
          obtain ⟨hsub, hprevious⟩ := hfirst hascent
          rw [List.append_nil]
          cases previous with
          | none => exact ⟨hsub, by simp⟩
          | some b => exact ⟨hsub, hprevious⟩
        | cons b before =>
          simp only [List.cons_append, List.cons.injEq] at hsplit
          obtain ⟨rfl, hsplit⟩ := hsplit
          have hrest := hlater before c' d' after hsplit hascent
          simpa [List.getLast?_append] using hrest
      · intro hall
        refine ⟨fun hascent => ?_, fun before c' d' after hsplit hascent => ?_⟩
        · obtain ⟨hsub, hprevious⟩ := hall [] c d rest rfl hascent
          refine ⟨hsub, fun b hb => hprevious b ?_⟩
          cases hb
          simp
        · have hrest := hall (c :: before) c' d' after (by rw [hsplit]; rfl) hascent
          simpa [List.getLast?_append] using hrest

theorem isOrderly_iff : IsOrderly s ↔ (∀ c ∈ s, c ∈ "IVXLCDM".toList) ∧ Allowed none s := by
  rw [allowed_iff]
  exact ⟨fun h => ⟨h.roman, h.ascent⟩, fun h => ⟨h.1, h.2⟩⟩

/-- What is allowed after a digit is allowed at the beginning. -/
theorem Allowed.none_of (h : Allowed previous s) : Allowed none s := by
  cases s with
  | nil => trivial
  | cons c s =>
    cases s with
    | nil => trivial
    | cons d rest => exact ⟨fun hascent => ⟨(h.1 hascent).1, by simp⟩, h.2⟩

theorem Allowed.tail (h : Allowed previous (c :: s)) : Allowed (some c) s := by
  cases s with
  | nil => trivial
  | cons d rest => exact h.2

/-- No larger digit follows one that may not be taken away. -/
theorem Allowed.not_ascent (h : Allowed previous (c :: s))
    (hc : isSubtractive c = true → ∃ b ∈ previous, digitWorth b ≤ digitWorth c) :
    ∀ d ∈ s.head?, digitWorth d ≤ digitWorth c := by
  intro d hd
  obtain ⟨rest, rfl⟩ := List.head?_eq_some_iff.1 hd
  by_contra hlt
  obtain ⟨hsub, hprevious⟩ := h.1 (Nat.lt_of_not_le hlt)
  obtain ⟨b, hb, hle⟩ := hc hsub
  have hlarger := hprevious b hb
  omega

/-- **On orderly digits the scan follows the textbook**: each digit that is to be taken away is held
back when the next one is read. -/
theorem worthAfter_eq_textbook (held : Option Char) (s : Text)
    (h : Allowed none (held.toList ++ s)) :
    (worthAfter held s : ℤ) = textbookWorth (held.toList ++ s) := by
  fun_induction worthAfter held s with
  | case1 => simp [textbookWorth]
  | case2 held => simp [textbookWorth]
  | case3 c rest _ ih => exact ih h
  | case4 c rest hsub ih =>
    have hdescent := h.not_ascent fun hc => absurd hc hsub
    rw [Option.toList_none, List.nil_append, textbookWorth_cons hdescent, Nat.cast_add,
      ih h.tail.none_of]
    rfl
  | case5 held rest ih =>
    have hpair : Allowed (some held) (held :: rest) := h.tail
    have hdescent := hpair.not_ascent fun _ => ⟨held, rfl, Nat.le_refl _⟩
    show _ = textbookWorth (held :: held :: rest)
    rw [textbookWorth_cons (by simp), textbookWorth_cons hdescent]
    have hrest := ih hpair.tail.none_of
    simp only [Option.toList_none, List.nil_append] at hrest
    omega
  | case6 held c rest _ hascent ih =>
    have hpair : Allowed (some held) (c :: rest) := h.tail
    have hdescent := hpair.not_ascent fun _ => ⟨held, rfl, hascent.le⟩
    show _ = textbookWorth (held :: c :: rest)
    rw [textbookWorth_ascent hascent, textbookWorth_cons hdescent]
    have hrest := ih hpair.tail.none_of
    simp only [Option.toList_none, List.nil_append] at hrest
    omega
  | case7 held c rest _ hdescent ih =>
    show _ = textbookWorth (held :: c :: rest)
    rw [textbookWorth_cons (by simpa using hdescent), Nat.cast_add]
    have hrest : Allowed (some held) (c :: rest) := h.tail
    exact congrArg _ (ih hrest.none_of)

/-! ## Numerals are orderly -/

/-- The text may come after any digit that is worth at least the bound: it begins with a smaller one,
if with any. -/
structure Follows (bound : ℕ) (s : Text) : Prop where
  head : ∀ c ∈ s.head?, digitWorth c < bound
  allowed : ∀ {previous : Option Char}, (∀ b ∈ previous, bound ≤ digitWorth b) → Allowed previous s

theorem follows_nil (bound : ℕ) : Follows bound [] :=
  ⟨by simp, fun _ => trivial⟩

/-- A digit that no larger one follows is allowed anywhere. -/
theorem allowed_cons (hdescent : ∀ d ∈ s.head?, digitWorth d ≤ digitWorth c)
    (hs : Allowed (some c) s) : Allowed previous (c :: s) := by
  cases s with
  | nil => trivial
  | cons d rest => exact ⟨fun hascent => absurd hascent (Nat.not_lt.2 (hdescent d rfl)), hs⟩

theorem allowed_replicate (hrest : Follows (digitWorth c) rest) (k : ℕ)
    (hprevious : ∀ b ∈ previous, digitWorth c ≤ digitWorth b) :
    Allowed previous (List.replicate k c ++ rest) := by
  induction k generalizing previous with
  | zero => exact hrest.allowed hprevious
  | succ k ih =>
    rw [List.replicate_succ, List.cons_append]
    refine allowed_cons (fun d hd => ?_) (ih (by simp))
    cases k with
    | zero => exact (hrest.head d hd).le
    | succ k =>
      cases hd
      exact Nat.le_refl _

variable {place : Place} {unit bound : ℕ}

theorem follows_ones (hp : place.Weighs unit) (hrest : Follows unit rest) (hbound : unit < bound)
    (k : ℕ) : Follows bound (List.replicate k place.one ++ rest) := by
  constructor
  · intro c hc
    cases k with
    | zero => exact (hrest.head c hc).trans hbound
    | succ k =>
      cases hc
      rwa [hp.one]
  · intro previous hprevious
    apply allowed_replicate
    · rwa [hp.one]
    · intro b hb
      rw [hp.one]
      exact hbound.le.trans (hprevious b hb)

/-- The one of a place is taken away from a larger digit, if a digit of a higher place comes
before. -/
theorem follows_pair (hp : place.Weighs unit) (hrest : Follows unit rest) (hd : unit < digitWorth d) :
    Follows (10 * unit) (place.one :: d :: rest) := by
  have hpos := hp.pos
  constructor
  · intro c hc
    cases hc
    rw [hp.one]
    omega
  · intro previous hprevious
    refine ⟨fun _ => ⟨hp.one_subtractive, fun b hb => ?_⟩, allowed_cons (fun c hc => ?_) ?_⟩
    · have hlarge := hprevious b hb
      rw [hp.one]
      omega
    · have hlt := hrest.head c hc
      omega
    · exact hrest.allowed (by simpa using hd.le)

/-- **A group of digits may come after any digit of a higher place.** -/
theorem follows_group (hp : place.Weighs unit) (hrest : Follows unit rest) (d : ℕ) :
    Follows (10 * unit) (place.group d ++ rest) := by
  have hpos := hp.pos
  unfold Place.group
  split
  · apply follows_pair hp hrest
    rw [hp.ten]
    omega
  split
  · apply follows_pair hp hrest
    rw [hp.five]
    omega
  split
  · have hones : Follows (digitWorth place.five) (List.replicate (d - 5) place.one ++ rest) := by
      apply follows_ones hp hrest
      rw [hp.five]
      omega
    constructor
    · intro c hc
      cases hc
      rw [hp.five]
      omega
    · intro previous _
      exact allowed_cons (fun c hc => (hones.head c hc).le) (hones.allowed (by simp))
  · exact follows_ones hp hrest (by omega) d

/-- **Numerals are orderly.** -/
theorem isOrderly_of_hasCanonicalForm (h : hasCanonicalForm s = true) : IsOrderly s := by
  obtain ⟨n, -, -, rfl⟩ := hasCanonicalForm_iff_ofNat.1 h
  rw [isOrderly_iff]
  refine ⟨fun c hc => mem_ofNat hc, ?_⟩
  have hunits := follows_group units_weighs (follows_nil 1) (n % 10)
  have htens := follows_group tens_weighs hunits (n / 10 % 10)
  have hhundreds : Follows (digitWorth 'M') _ :=
    follows_group hundreds_weighs htens (n / 100 % 10)
  rw [List.append_nil] at hhundreds
  rw [ofNat_eq_layout, layout]
  exact allowed_replicate hhundreds _ (by simp)

/-- Orderly digits can be as many as one likes. -/
theorem isOrderly_thousands (n : ℕ) : IsOrderly (List.replicate n 'M') := by
  have hallowed : Allowed none (List.replicate n 'M' ++ []) :=
    allowed_replicate (follows_nil _) n (by simp)
  rw [List.append_nil] at hallowed
  refine isOrderly_iff.2 ⟨fun c hc => ?_, hallowed⟩
  rw [List.eq_of_mem_replicate hc]
  decide

/-- **The scan and the textbook rule.**  The scan of any text is worth at least as much as the textbook
says, and at most as much as all its digits together.  It is worth just what the textbook says if the
digits are orderly.  Every numeral is, and so are texts of any length. -/
theorem worth_textbook (s : Text) :
    textbookWorth s ≤ worth s ∧ worth s ≤ (s.map digitWorth).sum ∧
      (IsOrderly s → (worth s : ℤ) = textbookWorth s) ∧
      (hasCanonicalForm s = true → IsOrderly s) ∧
      ∀ length, ∃ t, length ≤ t.length ∧ IsOrderly t := by
  obtain ⟨hlow, hhigh⟩ := worthAfter_bounds none s
  refine ⟨hlow, hhigh, fun h => ?_, isOrderly_of_hasCanonicalForm, fun length => ?_⟩
  · exact worthAfter_eq_textbook none s (isOrderly_iff.1 h).2
  · exact ⟨List.replicate length 'M', by simp, isOrderly_thousands length⟩

/-- Both bounds can be strict where a digit that may not be taken away stands before a larger one. -/
example : textbookWorth "VXIX".toList = 14 ∧ worth "VXIX".toList = 24 ∧
    ("VXIX".toList.map digitWorth).sum = 26 := by
  decide

end Tradespeak.Numeral
