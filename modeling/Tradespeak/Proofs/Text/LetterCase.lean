import Tradespeak.Text.LetterCase
import Tradespeak.Proofs.Text.Phrase

/-!
# Characters without other cases

* `foldCase_of_covers` — a character is its own representative if it lies in ranges that no range
  of the case table meets.
* `isBlank_of_sameLetter` — so a lower-case letter is in no case a blank.
-/

set_option autoImplicit false

namespace Tradespeak

variable {c d : Char}

theorem foldCase_of_covers {ranges : List (Nat × Nat)}
    (hapart : ∀ range ∈ ranges, ∀ cases ∈ caseRanges,
      range.2 < cases.first ∨ cases.last < range.1)
    (hc : covers ranges c = true) : foldCase c = c := by
  unfold foldCase
  split
  · rename_i cases hfind
    have hmem := List.mem_of_find?_eq_some hfind
    have hholds := List.find?_some hfind
    obtain ⟨range, hrange, hin⟩ := List.any_eq_true.1 hc
    simp only [CaseRange.holds, Bool.and_eq_true, decide_eq_true_eq] at hin hholds
    have := hapart range hrange cases hmem
    omega
  · rfl

theorem covers_of_isLower (hc : isLower c = true) : covers [(97, 122)] c = true := by
  rw [isLower, Bool.and_eq_true, decide_eq_true_iff, decide_eq_true_iff] at hc
  have hfirst : 97 ≤ c.toNat := hc.1
  have hlast : c.toNat ≤ 122 := hc.2
  simp [covers, hfirst, hlast]

theorem foldCase_of_isLower (hc : isLower c = true) : foldCase c = c :=
  foldCase_of_covers (by decide +kernel) (covers_of_isLower hc)

theorem foldCase_of_isBlank (hc : isBlank c = true) : foldCase c = c :=
  foldCase_of_covers (by decide +kernel) hc

/-- A lower-case letter is in no case a blank. -/
theorem isBlank_of_sameLetter (hd : isLower d = true) (h : sameLetter d c = true) :
    isBlank c = false := by
  by_contra hc
  rw [Bool.not_eq_false] at hc
  rw [sameLetter, beq_iff_eq, foldCase_of_isLower hd, foldCase_of_isBlank hc] at h
  subst h
  rw [isBlank_of_isLower hd] at hc
  cases hc

end Tradespeak
