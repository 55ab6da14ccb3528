import Tradespeak.Proofs.Market.Agreement
import Tradespeak.Proofs.Request.Overlap

/-!
# The order in which forms are tried

* `history_congr` — lines that make the same requests by two lists of forms have the same outcomes
  and the same markets after them.

Principal result: `form_order_irrelevant` — the order of the forms decides nothing but what becomes
of ambiguous lines.
-/

set_option autoImplicit false

namespace Tradespeak

namespace Market

variable {forms forms' : List Form} {lines : List Text}

/-- A line that makes the same request by two lists of forms has the same outcome. -/
theorem ask_congr {line : Text} (h : Request.ofLine? forms line = Request.ofLine? forms' line)
    (market : Market) : market.ask forms line = market.ask forms' line := by
  unfold ask
  rw [h]

theorem history_congr
    (h : ∀ line ∈ lines, Request.ofLine? forms line = Request.ofLine? forms' line)
    (market : Market) : market.history forms lines = market.history forms' lines := by
  induction lines generalizing market with
  | nil => rfl
  | cons line lines ih =>
    rw [history, history, ask_congr (h line List.mem_cons_self) market,
      ih fun line' hline' => h line' (List.mem_cons_of_mem _ hline')]

/-- **The order of the forms decides nothing but what becomes of ambiguous lines.**  A line that
teaches a word has no other form, and a line of two forms is ambiguous, so that it has a question
mark.  Without ambiguous lines, any two orders of the forms give the same outcomes and, after every
line, the same market, or markets that know the same if they knew the same before. -/
theorem form_order_irrelevant :
    (∀ line request, Form.teach.read line = some request →
        ∀ form : Form, form ≠ .teach → form.read line = none) ∧
      (∀ line (form form' : Form) request request', form ≠ form' → form.read line = some request →
        form'.read line = some request' → Form.Ambiguous line) ∧
      (∀ line, '?' ∉ line → ¬ Form.Ambiguous line) ∧
      ∀ forms forms' : List Form, forms.Perm Form.all → forms'.Perm Form.all →
        ∀ lines : List Text, (∀ line ∈ lines, ¬ Form.Ambiguous line) →
          (∀ market : Market, market.history forms lines = market.history forms' lines) ∧
            ∀ market other, Agrees market other →
              List.Forall₂ (fun step step' => step.1 = step'.1 ∧ Agrees step.2 step'.2)
                (market.history forms lines) (other.history forms' lines) := by
  refine ⟨fun _ _ h _ hform => Form.teach_read_excludes h hform,
    fun _ _ _ _ _ hne h h' => Form.ambiguous_of_reads hne h h',
    fun _ h => Form.not_ambiguous_of_not_mem h, ?_⟩
  intro forms forms' hforms hforms' lines hlines
  have hsame : ∀ market : Market, market.history forms lines = market.history forms' lines :=
    history_congr fun line hline =>
      Request.ofLine?_perm (hforms.trans hforms'.symm) (hlines line hline)
  refine ⟨hsame, fun market other h => ?_⟩
  rw [hsame market]
  exact h.history forms' lines

/-- A word, a price, and a question for a number. -/
def silverLines : List Text :=
  ["glob is I".toList, "glob Silver is 17 Credits".toList, "how much is glob?".toList]

theorem silverLines_not_ambiguous : ∀ line ∈ silverLines, ¬ Form.Ambiguous line := by
  intro line hline
  simp only [silverLines, List.mem_cons, List.not_mem_nil, or_false] at hline
  rcases hline with rfl | rfl | rfl
  · exact Form.not_ambiguous_of_not_mem (by decide)
  · exact Form.not_ambiguous_of_not_mem (by decide)
  · -- the question has no letter R, and no letter Y
    rintro ⟨-, hends | ⟨-, hcost⟩⟩
    · exact Pattern.not_occurs_of_letter (d := 'r') (by decide) (by decide +kernel) hends.occurs
    · exact Pattern.not_occurs_of_letter (d := 'y') (by decide) (by decide +kernel) hcost

/-- The question is answered alike when the forms are tried from the last to the first. -/
theorem form_order_irrelevant_reversed :
    Form.all.reverse.Perm Form.all ∧ (∀ line ∈ silverLines, ¬ Form.Ambiguous line) ∧
      Market.empty.history Form.all.reverse silverLines =
        Market.empty.history Form.all silverLines := by
  refine ⟨List.reverse_perm _, silverLines_not_ambiguous, ?_⟩
  exact (form_order_irrelevant.2.2.2 _ _ (List.reverse_perm _) (List.Perm.refl _) silverLines
    silverLines_not_ambiguous).1 Market.empty

end Market

end Tradespeak
