import Mathlib.Algebra.Group.Nat.Defs
import Mathlib.Data.List.Basic
import Tradespeak.Text.Quoted

/-!
# What can be read off a quoted text

* `SelfDelimiting` — where a written thing ends, and which one it is, can be read off any text that
  begins with it.
* `Text.ofNat_injective`, `Text.hex_injective` — a number is determined by its decimal digits, and by
  its hexadecimal digits if it has no more.
* `Text.Escaped` — the ways in which a character is written between quote marks: as it is, by a letter
  after a backslash, or by its code point.
* `Text.Escaped.append_inj` — these ways are told apart by the first two characters.

Principal result: `Text.quoted_selfDelimiting` — a quoted text ends at its quote mark, whatever marks
and backslashes the text holds.
-/

set_option autoImplicit false

namespace Tradespeak

/-- What is written can be told from what comes after it. -/
def SelfDelimiting {α : Type} (write : α → Text) : Prop :=
  ∀ a b s t, write a ++ s = write b ++ t → a = b ∧ s = t

namespace Text

variable {c d k mark : Char} {s t u v x y : Text}

/-! ## Decimal and hexadecimal digits -/

/-- A number is determined by its decimal digits. -/
theorem ofNat_injective {m n : ℕ} (h : ofNat m = ofNat n) : m = n := by
  unfold ofNat at h
  have hvalue := congrArg (fun s => Nat.ofDigitChars 10 s 0) h
  simpa using hvalue

theorem length_hex (width n : ℕ) : (hex width n).length = width := by
  induction width generalizing n with
  | zero => rfl
  | succ width ih => rw [hex, List.length_append, ih, List.length_singleton]

theorem digitChar_injective {m n : ℕ} (hm : m < 16) (hn : n < 16)
    (h : Nat.digitChar m = Nat.digitChar n) : m = n := by
  have hall : ∀ m < 16, ∀ n < 16, Nat.digitChar m = Nat.digitChar n → m = n := by decide
  exact hall m hm n hn h

/-- A number is determined by its hexadecimal digits, if there are enough of them. -/
theorem hex_injective {width m n : ℕ} (hm : m < 16 ^ width) (hn : n < 16 ^ width)
    (h : hex width m = hex width n) : m = n := by
  induction width generalizing m n with
  | zero =>
    rw [Nat.pow_zero] at hm hn
    omega
  | succ width ih =>
    rw [Nat.pow_succ] at hm hn
    rw [hex, hex] at h
    obtain ⟨hhigh, hlow⟩ := List.append_inj' h rfl
    have hrest : m / 16 = n / 16 := ih (by omega) (by omega) hhigh
    have hlast : m % 16 = n % 16 :=
      digitChar_injective (Nat.mod_lt m (by decide)) (Nat.mod_lt n (by decide)) (by simpa using hlow)
    omega

theorem feed_not_mem_hex (width n : ℕ) : '\n' ∉ hex width n := by
  have hdigit : ∀ digit < 16, '\n' ≠ Nat.digitChar digit := by decide
  induction width generalizing n with
  | zero => simp [hex]
  | succ width ih =>
    rw [hex, List.mem_append, List.mem_singleton, not_or]
    exact ⟨ih _, hdigit _ (Nat.mod_lt n (by decide))⟩

/-! ## Characters -/

/-- The character that a letter after a backslash stands for, if no digits belong to it. -/
def named (k : Char) : Char :=
  if k = 'n' then '\n' else if k = 'r' then '\r' else if k = 't' then '\t' else k

/-- The number of digits after a backslash and this letter. -/
def hexWidth (k : Char) : ℕ :=
  if k = 'x' then 2 else if k = 'u' then 4 else if k = 'U' then 8 else 0

/-- **The ways in which a character is written** between quote marks. -/
inductive Escaped (mark c : Char) : Text → Prop
  | plain (hmark : c ≠ mark) (hslash : c ≠ '\\') (hfeed : c ≠ '\n') : Escaped mark c [c]
  | named {k : Char} (hwidth : hexWidth k = 0) (hc : named k = c) (hfeed : k ≠ '\n') :
      Escaped mark c ['\\', k]
  | coded {k : Char} (hwidth : 0 < hexWidth k) (hc : c.toNat < 16 ^ hexWidth k) (hfeed : k ≠ '\n') :
      Escaped mark c ('\\' :: k :: hex (hexWidth k) c.toNat)

/-- The marks that quoted texts stand between. -/
def IsQuoteMark (mark : Char) : Prop := mark = '\x27' ∨ mark = '"'

theorem isQuoteMark_quoteMark (s : Text) : IsQuoteMark (quoteMark s) := by
  unfold quoteMark
  split
  · exact Or.inr rfl
  · exact Or.inl rfl

theorem escaped_escape (hmark : IsQuoteMark mark) (c : Char) : Escaped mark c (escape mark c) := by
  unfold escape
  split
  · rename_i hspecial
    -- a mark or a backslash stands for itself after a backslash
    have hc : c = '\x27' ∨ c = '"' ∨ c = '\\' := by
      rcases hspecial with rfl | rfl
      · exact hmark.imp_right Or.inl
      · exact Or.inr (Or.inr rfl)
    rcases hc with rfl | rfl | rfl <;> exact .named (by decide) (by decide) (by decide)
  rename_i hordinary
  obtain ⟨hne, hslash⟩ := not_or.1 hordinary
  split
  · rename_i hc
    exact .named (by decide) hc.symm (by decide)
  rename_i hfeed
  split
  · rename_i hc
    exact .named (by decide) hc.symm (by decide)
  split
  · rename_i hc
    exact .named (by decide) hc.symm (by decide)
  split
  · exact .plain hne hslash hfeed
  split
  · rename_i hsmall
    exact .coded (k := 'x') (by decide) hsmall (by decide)
  split
  · rename_i hsmall
    exact .coded (k := 'u') (by decide) hsmall (by decide)
  · have hlargest : c.toNat < 0x110000 := by
      rcases c.valid with hlow | ⟨-, hhigh⟩
      · exact Nat.lt_trans hlow (by decide)
      · exact hhigh
    exact .coded (k := 'U') (by decide) (Nat.lt_trans hlargest (by decide)) (by decide)

/-- **A character can be told from what comes after it**, by the first two characters of the form in
which it is written, and its digits. -/
theorem Escaped.append_inj (hc : Escaped mark c u) (hd : Escaped mark d v)
    (h : u ++ x = v ++ y) : c = d ∧ x = y := by
  cases hc with
  | plain hmark hslash =>
    cases hd with
    | plain =>
      rw [List.singleton_append, List.singleton_append, List.cons.injEq] at h
      exact h
    | named | coded => exact absurd (List.cons.inj h).1 hslash
  | named hwidth hc =>
    cases hd with
    | plain _ hslash => exact absurd (List.cons.inj h).1.symm hslash
    | named _ hd =>
      obtain ⟨rfl, hrest⟩ := List.cons.inj (List.cons.inj h).2
      exact ⟨hc.symm.trans hd, hrest⟩
    | coded hpos =>
      obtain ⟨rfl, -⟩ := List.cons.inj (List.cons.inj h).2
      omega
  | coded hpos hc =>
    cases hd with
    | plain _ hslash => exact absurd (List.cons.inj h).1.symm hslash
    | named hwidth =>
      obtain ⟨rfl, -⟩ := List.cons.inj (List.cons.inj h).2
      omega
    | coded _ hd =>
      obtain ⟨rfl, hdigits⟩ := List.cons.inj (List.cons.inj h).2
      obtain ⟨hhex, hrest⟩ := List.append_inj hdigits (by rw [length_hex, length_hex])
      exact ⟨Char.toNat_inj.1 (hex_injective hc hd hhex), hrest⟩

/-- No character is written as something that begins with the mark. -/
theorem Escaped.append_ne_mark (hc : Escaped mark c u) (hmark : IsQuoteMark mark) :
    u ++ x ≠ mark :: y := by
  have hslash : '\\' ≠ mark := by
    rcases hmark with rfl | rfl <;> decide
  intro h
  cases hc with
  | plain hne => exact hne (List.cons.inj h).1
  | named | coded => exact hslash (List.cons.inj h).1

theorem Escaped.feed_not_mem (hc : Escaped mark c u) : '\n' ∉ u := by
  cases hc with
  | plain _ _ hfeed => simpa using hfeed.symm
  | named _ _ hfeed => simpa using hfeed.symm
  | coded _ _ hfeed => simpa using ⟨hfeed.symm, feed_not_mem_hex _ _⟩

/-! ## Quoted texts -/

/-- The text ends at the first mark that is not written as a character. -/
theorem escapes_append_inj (hmark : IsQuoteMark mark)
    (h : s.flatMap (escape mark) ++ mark :: x = t.flatMap (escape mark) ++ mark :: y) :
    s = t ∧ x = y := by
  induction s generalizing t with
  | nil =>
    cases t with
    | nil => exact ⟨rfl, (List.cons.inj h).2⟩
    | cons d t =>
      rw [List.flatMap_cons, List.append_assoc] at h
      exact absurd h.symm ((escaped_escape hmark d).append_ne_mark hmark)
  | cons c s ih =>
    rw [List.flatMap_cons, List.append_assoc] at h
    cases t with
    | nil => exact absurd h ((escaped_escape hmark c).append_ne_mark hmark)
    | cons d t =>
      rw [List.flatMap_cons, List.append_assoc] at h
      obtain ⟨rfl, hrest⟩ := (escaped_escape hmark c).append_inj (escaped_escape hmark d) h
      obtain ⟨rfl, hxy⟩ := ih hrest
      exact ⟨rfl, hxy⟩

/-- **A quoted text can be told from what comes after it.** -/
theorem quoted_selfDelimiting : SelfDelimiting quoted := by
  intro s t x y h
  simp only [quoted, List.cons_append, List.append_assoc] at h
  obtain ⟨hmark, hrest⟩ := List.cons.inj h
  rw [hmark] at hrest
  exact escapes_append_inj (isQuoteMark_quoteMark t) hrest

end Text

end Tradespeak
