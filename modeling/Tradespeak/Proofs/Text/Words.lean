import Tradespeak.Proofs.Text.Phrase

/-!
# Trimmed texts and their words

* `trim_eq_self` — nothing is trimmed from a text with no blank at either end.
* `words_cons_blank`, `words_append_blank` — how a text is cut into words at a blank.

Principal result: `words_phrase` — the words of a phrase are the words that it is made of,
whatever the blanks between them.
-/

set_option autoImplicit false

namespace Tradespeak

namespace Text

variable {c : Char} {w s : Text}

theorem trimStart_eq_self (h : ∀ c ∈ s.head?, isBlank c = false) : trimStart s = s := by
  cases s with
  | nil => rfl
  | cons c s => exact List.dropWhile_cons_of_neg (by simp [h c rfl])

theorem trim_eq_self (hfirst : ∀ c ∈ s.head?, isBlank c = false)
    (hlast : ∀ c ∈ s.getLast?, isBlank c = false) : trim s = s := by
  have hreverse : ∀ c ∈ s.reverse.head?, isBlank c = false := by
    rwa [List.head?_reverse]
  rw [trim, trimStart_eq_self hfirst, trimEnd, trimStart_eq_self hreverse, List.reverse_reverse]

theorem cutWords_cons_blank (hc : isBlank c = true) : cutWords (c :: s) = ([], words s) := by
  simp [cutWords, words, hc]

theorem cutWords_append (hw : ∀ c ∈ w, isBlank c = false) :
    cutWords (w ++ s) = (w ++ (cutWords s).1, (cutWords s).2) := by
  induction w with
  | nil => rfl
  | cons c w ih =>
    have hrest := ih fun d hd => hw d (List.mem_cons_of_mem _ hd)
    simp [cutWords, hrest, hw c List.mem_cons_self]

theorem words_cons_blank (hc : isBlank c = true) : words (c :: s) = words s := by
  rw [words, cutWords_cons_blank hc]
  exact if_pos rfl

theorem words_blanks_append {blanks : Text} (hb : ∀ c ∈ blanks, isBlank c = true) :
    words (blanks ++ s) = words s := by
  induction blanks with
  | nil => rfl
  | cons c blanks ih =>
    rw [List.cons_append, words_cons_blank (hb c List.mem_cons_self)]
    exact ih fun d hd => hb d (List.mem_cons_of_mem _ hd)

theorem words_word (hnil : w ≠ []) (hw : ∀ c ∈ w, isBlank c = false) : words w = [w] := by
  have hcut := cutWords_append (s := []) hw
  rw [List.append_nil] at hcut
  simp [words, hcut, cutWords, hnil]

theorem words_append_blank (hnil : w ≠ []) (hw : ∀ c ∈ w, isBlank c = false)
    (hc : isBlank c = true) : words (w ++ c :: s) = w :: words s := by
  simp [words, cutWords_append hw, cutWords_cons_blank hc, hnil]

end Text

variable {ws : List Text} {p : Text}

theorem trim_phrase (hp : Phrase ws p) : Text.trim p = p :=
  Text.trim_eq_self (fun c hc => isBlank_of_isLower (phrase_head hp c hc))
    fun c hc => isBlank_of_isLower (phrase_getLast hp c hc)

/-- **The words of a phrase are those that it is made of**, whatever the blanks between them. -/
theorem words_phrase (hp : Phrase ws p) : Text.words p = ws := by
  have hletters : ∀ {w}, IsRun isLower w → ∀ c ∈ w, isBlank c = false :=
    fun hw c hc => isBlank_of_isLower (hw.2 c hc)
  induction hp with
  | word hw => exact Text.words_word hw.1 (hletters hw)
  | @cons w blanks s ws hw hb hs ih =>
    obtain ⟨hnil, hb⟩ := hb
    cases blanks with
    | nil => exact absurd rfl hnil
    | cons c blanks =>
      rw [List.cons_append, Text.words_append_blank hw.1 (hletters hw) (hb c List.mem_cons_self),
        Text.words_blanks_append fun d hd => hb d (List.mem_cons_of_mem _ hd), ih]

end Tradespeak
