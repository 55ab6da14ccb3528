import Tradespeak.Proofs.Request.Question

/-!
# Lines that price an item

* `Form.priceEnd` — the parts after the item and its gap, which the end of the line determines.
* `Form.PricePieces` — the pieces of a price.
* `Form.price_read_of_decomposes` — an item may hold all that comes after it, and still any
  decomposition of the line gives the same phrase, the same item up to blanks and the same credits.
* `priceLine` — the line that says what some units of an item cost.

Principal result: `Request.ofLine?_priceLine` — it is read with just its phrase, its item and its
credits.
-/

set_option autoImplicit false

namespace Tradespeak

namespace Form

open Pattern

variable {ps ps' : List Text} {line before : Text}

/-- The parts of a price after the item and the gap behind it. -/
def priceEnd : List Part :=
  letters "is".toList ++ .gap :: .field "credits".toList .integer :: .gap ::
    letters "credits".toList

theorem price_parts : Form.price.pattern.parts = .field "number".toList .words :: .gap ::
    .field "item".toList .item :: .gap :: priceEnd := by
  simp [pattern, priceEnd]

theorem priceEnd_unambiguous : Unambiguous priceEnd.reverse := by
  have hreverse : priceEnd.reverse = letters "stiderc".toList ++ .gap ::
      .field "credits".toList .integer :: .gap :: (letters "si".toList ++ []) := by
    simp [priceEnd, letters]
  have his := (Unambiguous.nil.letters "si".toList).gap
    (solid_letters (by simp) (by simp; decide))
  rw [hreverse]
  exact (his.integer.gap solid_integer).letters "stiderc".toList

theorem priceEnd_reversible : ∀ part ∈ priceEnd, part.Reversible := by
  intro part hpart
  simp only [priceEnd, letters, List.mem_append, List.mem_cons, List.mem_map] at hpart
  rcases hpart with ⟨c, -, rfl⟩ | rfl | rfl | rfl | ⟨c, -, rfl⟩
  · exact Part.reversible_letter
  · exact Part.reversible_gap
  · exact Part.reversible_integer
  · exact Part.reversible_gap
  · exact Part.reversible_letter

/-- The pieces of a price: a phrase, an item, and the end, with gaps between them. -/
structure PricePieces (phrase gap item gap' : Text) (last : List Text) : Prop where
  phrase : ∃ ws, Phrase ws phrase
  gap : IsRun isBlank gap
  item : Kind.item.Holds item
  gap' : IsRun isBlank gap'
  last : List.Forall₂ Part.Takes priceEnd last

theorem price_takes_iff : List.Forall₂ Part.Takes Form.price.pattern.parts ps ↔
    ∃ phrase gap item gap' last, ps = phrase :: gap :: item :: gap' :: last ∧
      PricePieces phrase gap item gap' last := by
  rw [price_parts]
  constructor
  · intro h
    simp only [List.forall₂_cons_left_iff] at h
    obtain ⟨phrase, _, hphrase, ⟨gap, _, hgap, ⟨item, _, hitem, ⟨gap', last, hgap', hlast, rfl⟩,
      rfl⟩, rfl⟩, rfl⟩ := h
    exact ⟨phrase, gap, item, gap', last, rfl, hphrase, hgap, hitem, hgap', hlast⟩
  · rintro ⟨phrase, gap, item, gap', last, rfl, h⟩
    exact .cons h.phrase (.cons h.gap (.cons h.item (.cons h.gap' h.last)))

/-- **All decompositions of a price have the same fields.**  The end is determined from the right,
the phrase from the left, and what is between is the item and blanks. -/
theorem price_fields_unique (h : List.Forall₂ Part.Takes Form.price.pattern.parts ps)
    (h' : List.Forall₂ Part.Takes Form.price.pattern.parts ps') (heq : ps.flatten = ps'.flatten) :
    fieldPieces Form.price.pattern.parts ps = fieldPieces Form.price.pattern.parts ps' := by
  obtain ⟨phrase, gap, item, blanks, last, rfl, ⟨ws, hphrase⟩, hgap, hitem, hblanks, hlast⟩ :=
    price_takes_iff.1 h
  obtain ⟨phrase', gap', item', blanks', last', rfl, ⟨ws', hphrase'⟩, hgap', hitem', hblanks',
    hlast'⟩ := price_takes_iff.1 h'
  simp only [List.flatten_cons, ← List.append_assoc] at heq
  have hsame := priceEnd_unambiguous.at_end priceEnd_reversible hlast hlast' heq
  subst hsame
  have hfront := List.append_cancel_right heq
  simp only [List.append_assoc] at hfront
  obtain ⟨rfl, -, hitems⟩ :=
    phrase_item_inj hphrase hphrase' hgap.2 hgap'.2 hitem hitem' hfront
  have htrim : Text.trim item = Text.trim item' := by
    rw [← Text.trim_append_blanks item hblanks.2, hitems, Text.trim_append_blanks item' hblanks'.2]
  rw [price_parts]
  simp only [fieldPieces, htrim]

/-- **A price is read with the fields of any of its decompositions.** -/
theorem price_read_of_decomposes (h : Form.price.pattern.Decomposes line before ps) :
    Form.price.read line = Form.price.request? (fieldPieces Form.price.pattern.parts ps) := by
  have hsame : ∀ before' ps', Form.price.pattern.Decomposes line before' ps' →
      fieldPieces Form.price.pattern.parts ps' = fieldPieces Form.price.pattern.parts ps :=
    fun before' ps' h' => price_fields_unique h'.1 h.1 (h'.2.2.trans h.2.2.symm)
  rw [read, fieldTexts?_of_same_fields Form.price.mark_not_blank h hsame, Option.bind_some]

end Form

/-! ## The line -/

/-- The line that says what as many units of an item as the phrase says cost. -/
def priceLine (phrase item credits : Text) : Text :=
  phrase ++ ' ' :: (item ++ " is ".toList ++ credits ++ " Credits".toList)

variable {ws : List Text} {phrase item credits : Text}

theorem getLast?_priceLine : (priceLine phrase item credits).getLast? = some 's' := by
  have hsplit : priceLine phrase item credits =
      phrase ++ ' ' :: (item ++ " is ".toList ++ credits ++ " Credit".toList) ++ ['s'] := by
    simp [priceLine]
  rw [hsplit, List.getLast?_concat]

theorem trim_priceLine (hp : Phrase ws phrase) :
    Text.trim (priceLine phrase item credits) = priceLine phrase item credits := by
  refine Text.trim_eq_self (fun c hc => isBlank_of_isLower (phrase_append_head hp _ c hc))
    fun c hc => ?_
  rw [getLast?_priceLine] at hc
  cases hc
  decide

/-- There is no blank among digits. -/
theorem trim_digits (hcredits : IsRun isDecimalDigit credits) : Text.trim credits = credits :=
  Text.trim_eq_self
    (fun c hc => isBlank_of_isDecimalDigit (hcredits.2 c (List.mem_of_head? hc)))
    fun c hc => isBlank_of_isDecimalDigit (hcredits.2 c (List.mem_of_getLast? hc))

namespace Form

open Pattern

theorem price_read (hp : Phrase ws phrase) (hitem : IsItemName item)
    (hcredits : IsRun isDecimalDigit credits) :
    Form.price.read (priceLine phrase item credits) = some (.price phrase item credits) := by
  have hspace : Part.gap.Takes [' '] := isRun_space
  have hnumber : (Part.field "credits".toList .integer).Takes credits := hcredits
  have hunit : List.Forall₂ Part.Takes (letters "credits".toList)
      (['C'] :: "redits".toList.map fun c => [c]) := by
    have hrest := takes_letters .nil "redits".toList
    rw [List.append_nil, List.append_nil] at hrest
    exact .cons ⟨'C', by decide +kernel, rfl⟩ hrest
  have hlast : List.Forall₂ Part.Takes priceEnd _ :=
    takes_letters (.cons hspace (.cons hnumber (.cons hspace hunit))) "is".toList
  have htakes := price_takes_iff.2
    ⟨phrase, [' '], item, [' '], _, rfl, ⟨⟨ws, hp⟩, hspace, Kind.item_holds hitem, hspace, hlast⟩⟩
  have hdec : Form.price.pattern.Decomposes (priceLine phrase item credits) [] _ :=
    ⟨htakes, rfl, by rw [trim_priceLine hp]; simp [priceLine]⟩
  rw [price_read_of_decomposes hdec, price_parts]
  simp [priceEnd, letters, fieldPieces, request?, trim_phrase hp, hitem.trimmed, trim_digits hcredits]

end Form

/-- **The line is read with just its phrase, its item and its credits**, whatever the item holds. -/
theorem Request.ofLine?_priceLine (hp : Phrase ws phrase) (hitem : IsItemName item)
    (hcredits : IsRun isDecimalDigit credits) :
    Request.ofLine? Form.all (priceLine phrase item credits) =
      some (.price phrase item credits) := by
  have hteach : Form.teach.read (priceLine phrase item credits) = none := by
    refine Form.teach_read_eq_none fun c hc => ?_
    rw [trim_priceLine hp, getLast?_priceLine] at hc
    cases hc
    decide
  rw [ofLine?_all, hteach, Form.price_read hp hitem hcredits, Option.none_or, Option.some_or]

end Tradespeak
