import Tradespeak.Proofs.Market.Counts
import Tradespeak.Proofs.Request.Following

/-!
# Blanks around a line

The forms of definitions are compared with the trimmed line, those of questions are looked for in the
line as it stands.  Blanks around the line make no difference to either.

* `Pattern.Compact` — parts whose pieces neither begin nor end with a blank.
* `Pattern.Compact.decomposes_margins`, `Pattern.Compact.chooses_margins` — what is cut from a line is
  cut from it between blanks too, at its own place, and nothing else is.
* `Form.read_margins` — every form reads the line alike.
* `Market.fulfil_congr` — what a request does depends on the request alone, not on the line that makes
  it; `Market.ask_margins` — so does what becomes of a line.

Principal result: `Market.margins_irrelevant`.
-/

set_option autoImplicit false

namespace Tradespeak

namespace Pattern

variable {parts : List Part} {pattern : Pattern} {line before before' margin margin' s t x y : Text}
  {ps : List Text} {c d : Char}

/-! ## Pieces between blanks -/

/-- **The pieces for the parts neither begin nor end with a blank.** -/
structure Compact (parts : List Part) : Prop where
  begins : ∀ ps, List.Forall₂ Part.Takes parts ps → ∃ c s, ps.flatten = c :: s ∧ isBlank c = false
  ends : ∀ ps, List.Forall₂ Part.Takes parts ps → ∃ s c, ps.flatten = s ++ [c] ∧ isBlank c = false

/-- Parts that begin with a letter and are closed by a mark are compact. -/
theorem ClosedBy.compact (hclosed : ClosedBy d (.letter c :: parts)) (hc : isLower c = true)
    (hd : isBlank d = false) : Compact (.letter c :: parts) := by
  constructor
  · intro ps hps
    obtain ⟨p, later, ⟨e, he, rfl⟩, -, rfl⟩ := List.forall₂_cons_left_iff.1 hps
    exact ⟨e, later.flatten, rfl, isBlank_of_sameLetter hc he⟩
  · intro ps hps
    obtain ⟨s, hs⟩ := hclosed.ends ps hps
    exact ⟨s, d, hs, hd⟩

/-- A text that is cut at a character is cut before any part at its end that does not have it. -/
theorem mark_append_split (hx : d ∉ x) (h : y ++ x = s ++ d :: t) :
    ∃ u, t = u ++ x ∧ y = s ++ d :: u := by
  rcases List.append_eq_append_iff.1 h with ⟨u, -, rfl⟩ | ⟨u, rfl, hu⟩
  · exact absurd (List.mem_append_right u List.mem_cons_self) hx
  · cases u with
    | nil =>
      rw [List.nil_append] at hu
      exact absurd (hu ▸ List.mem_cons_self) hx
    | cons e u =>
      rw [List.cons_append, List.cons.injEq] at hu
      obtain ⟨rfl, rfl⟩ := hu
      exact ⟨u, rfl, rfl⟩

/-- **What is cut from a line between blanks** is cut from the line itself: the pieces cannot reach into
the blanks on either side. -/
theorem Compact.decomposes_margins (hcompact : Compact pattern.parts)
    (hanchored : pattern.anchored = false) (hmargin : ∀ c ∈ margin, isBlank c = true)
    (hmargin' : ∀ c ∈ margin', isBlank c = true) :
    pattern.Decomposes (margin ++ (line ++ margin')) before' ps ↔
      ∃ before, before' = margin ++ before ∧ pattern.Decomposes line before ps := by
  have hopen : ¬ pattern.anchored = true := by simp [hanchored]
  unfold Decomposes
  simp only [if_neg hopen]
  constructor
  · rintro ⟨htakes, after, hline⟩
    obtain ⟨c, s, hfirst, hc⟩ := hcompact.begins ps htakes
    obtain ⟨t, d, hlast, hd⟩ := hcompact.ends ps htakes
    rw [hfirst, List.cons_append] at hline
    obtain ⟨before, rfl, hrest⟩ := append_mark_split (not_mem_of_class hc hmargin) hline
    rw [← List.cons_append, ← hfirst, hlast, List.append_assoc, ← List.append_assoc before] at hrest
    obtain ⟨after', -, hinner⟩ := mark_append_split (not_mem_of_class hd hmargin') hrest
    refine ⟨before, rfl, htakes, after', ?_⟩
    rw [hinner, hlast]
    simp
  · rintro ⟨before, rfl, htakes, after, rfl⟩
    exact ⟨htakes, after ++ margin', by simp⟩

/-- **The pieces that are chosen stay the same** when blanks are put around a line. -/
theorem Compact.chooses_margins (hcompact : Compact pattern.parts)
    (hanchored : pattern.anchored = false) (hmargin : ∀ c ∈ margin, isBlank c = true)
    (hmargin' : ∀ c ∈ margin', isBlank c = true) :
    (∃ before', pattern.Chooses (margin ++ (line ++ margin')) before' ps) ↔
      ∃ before, pattern.Chooses line before ps := by
  have hdec : ∀ {before' : Text} {ps : List Text},
      pattern.Decomposes (margin ++ (line ++ margin')) before' ps ↔
        ∃ before, before' = margin ++ before ∧ pattern.Decomposes line before ps :=
    hcompact.decomposes_margins hanchored hmargin hmargin'
  constructor
  · rintro ⟨before', hdecomposes, hleftmost, hgreatest⟩
    obtain ⟨before, rfl, hinner⟩ := hdec.1 hdecomposes
    refine ⟨before, hinner, fun before₁ ps₁ h₁ => ?_, fun ps₁ h₁ => ?_⟩
    · have hle := hleftmost _ _ (hdec.2 ⟨before₁, rfl, h₁⟩)
      simp only [List.length_append] at hle
      omega
    · exact hgreatest ps₁ (hdec.2 ⟨before, rfl, h₁⟩)
  · rintro ⟨before, hinner, hleftmost, hgreatest⟩
    refine ⟨margin ++ before, hdec.2 ⟨before, rfl, hinner⟩, fun before₁ ps₁ h₁ => ?_,
      fun ps₁ h₁ => ?_⟩
    · obtain ⟨before₂, rfl, h₂⟩ := hdec.1 h₁
      have hle := hleftmost _ _ h₂
      simp only [List.length_append]
      omega
    · obtain ⟨before₂, heq, h₂⟩ := hdec.1 h₁
      cases List.append_cancel_left heq
      exact hgreatest ps₁ h₂

/-- The fields that are found stay the same when blanks are put around a line, if the pattern is one of
whole lines or is compact. -/
theorem fieldTexts?_margins (hmark : ∀ d, .mark d ∈ pattern.parts → isBlank d = false)
    (hpattern : pattern.anchored = true ∨ Compact pattern.parts)
    (hmargin : ∀ c ∈ margin, isBlank c = true) (hmargin' : ∀ c ∈ margin', isBlank c = true)
    (line : Text) :
    pattern.fieldTexts? (margin ++ (line ++ margin')) = pattern.fieldTexts? line := by
  cases hanchored : pattern.anchored with
  | true =>
    simp only [fieldTexts?, fit?, hanchored, if_true, Text.trim_margins hmargin hmargin']
  | false =>
    have hcompact : Compact pattern.parts := hpattern.resolve_left (by simp [hanchored])
    apply Option.ext
    intro texts
    rw [fieldTexts?_eq_some_iff hmark, fieldTexts?_eq_some_iff hmark]
    constructor
    · rintro ⟨before', ps, hchosen, rfl⟩
      obtain ⟨before, hinner⟩ :=
        (hcompact.chooses_margins hanchored hmargin hmargin').1 ⟨before', hchosen⟩
      exact ⟨before, ps, hinner, rfl⟩
    · rintro ⟨before, ps, hinner, rfl⟩
      obtain ⟨before', hchosen⟩ :=
        (hcompact.chooses_margins hanchored hmargin hmargin').2 ⟨before, hinner⟩
      exact ⟨before', ps, hchosen, rfl⟩

end Pattern

/-! ## Forms and requests -/

variable {margin margin' : Text}

open Pattern in
/-- A form is one of whole lines, or its pieces do not reach into blanks around the line. -/
theorem Form.anchored_or_compact (form : Form) :
    form.pattern.anchored = true ∨ Compact form.pattern.parts := by
  cases form with
  | teach => exact Or.inl rfl
  | price => exact Or.inl rfl
  | number => exact Or.inr (number_closed.compact (by decide) (by decide))
  | cost => exact Or.inr (cost_closed.compact (by decide) (by decide))

/-- **Every form reads a line alike with blanks around it.** -/
theorem Form.read_margins (form : Form) (hmargin : ∀ c ∈ margin, isBlank c = true)
    (hmargin' : ∀ c ∈ margin', isBlank c = true) (line : Text) :
    form.read (margin ++ (line ++ margin')) = form.read line := by
  unfold Form.read
  rw [Pattern.fieldTexts?_margins form.mark_not_blank form.anchored_or_compact hmargin hmargin']

theorem Request.ofLine?_margins (forms : List Form) (hmargin : ∀ c ∈ margin, isBlank c = true)
    (hmargin' : ∀ c ∈ margin', isBlank c = true) (line : Text) :
    Request.ofLine? forms (margin ++ (line ++ margin')) = Request.ofLine? forms line := by
  unfold Request.ofLine?
  simp only [Form.read_margins _ hmargin hmargin']

/-! ## Markets -/

namespace Market

/-- What a request does depends on the request alone: the text of the line would count only for a
phrase that says zero, and none does. -/
theorem fulfil_congr (market : Market) (line line' : Text) (request : Request) :
    market.fulfil line request = market.fulfil line' request := by
  cases request with
  | teach word digit => rfl
  | number phrase => rfl
  | cost phrase item => rfl
  | price phrase item credits =>
    show market.setPrice line phrase item credits = market.setPrice line' phrase item credits
    cases hnumeral : market.vocabulary.numeralOf phrase with
    | error refusal => simp only [setPrice, hnumeral]
    | ok units => exact setPrice_congr hnumeral hnumeral rfl

/-- With blanks around it, a line leaves the same market behind. It has the same outcome, or has no form
either way. -/
theorem ask_margins (forms : List Form) (market : Market) (hmargin : ∀ c ∈ margin, isBlank c = true)
    (hmargin' : ∀ c ∈ margin', isBlank c = true) (line : Text) :
    (market.ask forms (margin ++ (line ++ margin'))).2 = (market.ask forms line).2 ∧
      ((market.ask forms (margin ++ (line ++ margin'))).1 = (market.ask forms line).1 ∨
        (market.ask forms (margin ++ (line ++ margin'))).1 =
            .refused (.unknownForm (margin ++ (line ++ margin'))) ∧
          (market.ask forms line).1 = .refused (.unknownForm line)) := by
  unfold ask
  rw [Request.ofLine?_margins forms hmargin hmargin' line]
  cases Request.ofLine? forms line with
  | none => exact ⟨rfl, Or.inr ⟨rfl, rfl⟩⟩
  | some request =>
    have hsame := market.fulfil_congr (margin ++ (line ++ margin')) line request
    exact ⟨congrArg Prod.snd hsame, Or.inl (congrArg Prod.fst hsame)⟩

/-- **Blanks around a line make no difference.**  Every form reads the line alike, so that it makes the
same request by whatever forms are tried, and leaves the same market behind.  It has the same outcome
too; if it is refused because it has no form, the refusal names the line as it stands. -/
theorem margins_irrelevant (hmargin : ∀ c ∈ margin, isBlank c = true)
    (hmargin' : ∀ c ∈ margin', isBlank c = true) (line : Text) :
    (∀ form : Form, form.read (margin ++ (line ++ margin')) = form.read line) ∧
      ∀ (forms : List Form) (market : Market),
        Request.ofLine? forms (margin ++ (line ++ margin')) = Request.ofLine? forms line ∧
        (market.ask forms (margin ++ (line ++ margin'))).2 = (market.ask forms line).2 ∧
        ((market.ask forms (margin ++ (line ++ margin'))).1 = (market.ask forms line).1 ∨
          (market.ask forms (margin ++ (line ++ margin'))).1 =
              .refused (.unknownForm (margin ++ (line ++ margin'))) ∧
            (market.ask forms line).1 = .refused (.unknownForm line)) :=
  ⟨fun form => form.read_margins hmargin hmargin' line, fun forms market =>
    ⟨Request.ofLine?_margins forms hmargin hmargin' line,
      ask_margins forms market hmargin hmargin' line⟩⟩

/-- A question that has blanks in it stands among blanks of several sorts, line breaks among them. -/
theorem margins_irrelevant_silver :
    (∀ c ∈ "\n\u00a0\t".toList, isBlank c = true) ∧
      (∀ c ∈ "\u2028 \n".toList, isBlank c = true) ∧
      Form.cost.read
          ("\n\u00a0\t".toList ++ ("so: how many credits is glob Silver\n?".toList ++
            "\u2028 \n".toList)) =
        some (.cost "glob".toList "Silver".toList) := by
  have hmargin : ∀ c ∈ "\n\u00a0\t".toList, isBlank c = true := List.all_eq_true.1 (by decide)
  have hmargin' : ∀ c ∈ "\u2028 \n".toList, isBlank c = true := List.all_eq_true.1 (by decide)
  obtain ⟨hread, -⟩ :=
    margins_irrelevant hmargin hmargin' "so: how many credits is glob Silver\n?".toList
  refine ⟨hmargin, hmargin', ?_⟩
  rw [hread]
  decide +kernel

end Market

end Tradespeak
