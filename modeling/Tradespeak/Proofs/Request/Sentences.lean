import Tradespeak.Proofs.Request.Following
import Tradespeak.Proofs.Request.PriceLine

/-!
# The sentences of the dialect

What a question for a number and a price look like, said without patterns.

* `InAnyCase` — a word with each of its letters in either case.
* `AsksNumber`, `NumberAt` — a question for the number of a phrase, and the places of a line where one
  stands.
* `SaysPrice` — a text that prices an item.
* `AsksNumber.exists_takes`, `exists_asksNumber`, `SaysPrice.exists_takes`, `exists_saysPrice` — these
  are just what the patterns of the two forms take.
* `NumberAt.unique`, `SaysPrice.unique` — the phrase of a question, and all that a price says, are
  determined.

Principal results: `Form.number_read_spec` — a line asks for the number of the phrase in the first
question that stands in it, whatever comes after it; `Form.price_read_spec` — a line prices an item
just if it can be cut as a price, and all cuts say the same.
-/

set_option autoImplicit false

namespace Tradespeak

open Pattern

/-- The text is the word, each of its letters in either case. -/
def InAnyCase (word s : Text) : Prop := List.Forall₂ (fun d c => sameLetter d c = true) word s

/-- **A question for the number of a phrase**: the words *how much is*, the phrase and a question
mark, with gaps between them.  The blanks before the question mark may be missing. -/
inductive AsksNumber (phrase : Text) : Text → Prop
  | question {how gap much gap' is gap'' blanks : Text} (hhow : InAnyCase "how".toList how)
      (hgap : IsRun isBlank gap) (hmuch : InAnyCase "much".toList much) (hgap' : IsRun isBlank gap')
      (his : InAnyCase "is".toList is) (hgap'' : IsRun isBlank gap'')
      (hphrase : ∃ ws, Phrase ws phrase) (hblanks : ∀ c ∈ blanks, isBlank c = true) :
      AsksNumber phrase
        (how ++ (gap ++ (much ++ (gap' ++ (is ++ (gap'' ++ (phrase ++ (blanks ++ ['?']))))))))

/-- A question for the number of the phrase stands in the line, after what comes before it. -/
def NumberAt (line before phrase question : Text) : Prop :=
  AsksNumber phrase question ∧ ∃ after, line = before ++ (question ++ after)

/-- The question for a number stands in the line, and none begins further to the left. -/
structure FirstNumberAt (line before phrase question : Text) : Prop where
  stands : NumberAt line before phrase question
  leftmost : ∀ before' phrase' question', NumberAt line before' phrase' question' →
    before.length ≤ before'.length

/-- **What units of an item cost**: a phrase, an item, the word *is*, the credits and the word
*credits*, with gaps between them.  The item begins with an upper-case letter and has no line break,
and may hold anything else. -/
inductive SaysPrice (phrase item credits : Text) : Text → Prop
  | price {gap gap' is gap'' gap₃ unit : Text} (hphrase : ∃ ws, Phrase ws phrase)
      (hgap : IsRun isBlank gap) (hitem : Kind.item.Holds item) (hgap' : IsRun isBlank gap')
      (his : InAnyCase "is".toList is) (hgap'' : IsRun isBlank gap'')
      (hcredits : IsRun isDecimalDigit credits) (hgap₃ : IsRun isBlank gap₃)
      (hunit : InAnyCase "credits".toList unit) :
      SaysPrice phrase item credits
        (phrase ++ (gap ++ (item ++ (gap' ++ (is ++ (gap'' ++ (credits ++ (gap₃ ++ unit))))))))

/-! ## Words in any case -/

namespace Pattern

variable {parts : List Part} {ps later : List Text} {word s : Text}

/-- The pieces for a word are its letters in either case, one by one. -/
theorem takes_word_iff : List.Forall₂ Part.Takes (letters word) ps ↔
    ∃ s, InAnyCase word s ∧ ps = s.map fun c => [c] := by
  induction word generalizing ps with
  | nil =>
    constructor
    · intro h
      cases h
      exact ⟨[], .nil, rfl⟩
    · rintro ⟨s, hs, rfl⟩
      cases hs
      exact .nil
  | cons d word ih =>
    constructor
    · intro h
      obtain ⟨_, ps', ⟨c, hc, rfl⟩, hps', rfl⟩ := List.forall₂_cons_left_iff.1 h
      obtain ⟨s, hs, rfl⟩ := ih.1 hps'
      exact ⟨c :: s, .cons hc hs, rfl⟩
    · rintro ⟨s, hs, rfl⟩
      obtain ⟨c, s', hc, hs', rfl⟩ := List.forall₂_cons_left_iff.1 hs
      exact .cons ⟨c, hc, rfl⟩ (ih.2 ⟨s', hs', rfl⟩)

theorem takes_letters_iff : List.Forall₂ Part.Takes (letters word ++ parts) ps ↔
    ∃ s later, InAnyCase word s ∧ List.Forall₂ Part.Takes parts later ∧
      ps = s.map (fun c => [c]) ++ later := by
  rw [takes_append_iff]
  constructor
  · rintro ⟨_, later, rfl, hword, hlater⟩
    obtain ⟨s, hs, rfl⟩ := takes_word_iff.1 hword
    exact ⟨s, later, hs, hlater, rfl⟩
  · rintro ⟨s, later, hs, hlater, rfl⟩
    exact ⟨_, later, rfl, takes_word_iff.2 ⟨s, hs, rfl⟩, hlater⟩

theorem takes_gap_iff : List.Forall₂ Part.Takes (.gap :: parts) ps ↔
    ∃ gap later, IsRun isBlank gap ∧ List.Forall₂ Part.Takes parts later ∧ ps = gap :: later :=
  List.forall₂_cons_left_iff

theorem flatten_singletons (s : Text) : (s.map fun c => [c]).flatten = s := by
  rw [← List.flatMap_def, List.flatMap_singleton']

/-- A word reports nothing. -/
theorem fieldPieces_letters (hs : InAnyCase word s) (parts : List Part) (later : List Text) :
    fieldPieces (letters word ++ parts) (s.map (fun c => [c]) ++ later) =
      fieldPieces parts later := by
  refine Form.fieldPieces_append_of_no_field (fun part hpart => ?_)
    (takes_word_iff.2 ⟨s, hs, rfl⟩)
  obtain ⟨d, -, rfl⟩ := List.mem_map.1 hpart
  rfl

end Pattern

/-! ## Sentences and patterns -/

variable {line before phrase phrase' item item' credits credits' question question' s : Text}
  {ps : List Text} {request : Request}

/-- The pattern of the questions for a number takes them, and reports the phrase. -/
theorem AsksNumber.exists_takes (h : AsksNumber phrase s) :
    ∃ ps, List.Forall₂ Part.Takes Form.number.pattern.parts ps ∧ ps.flatten = s ∧
      fieldPieces Form.number.pattern.parts ps = [phrase] := by
  obtain ⟨hhow, hgap, hmuch, hgap', his, hgap'', ⟨ws, hphrase⟩, hblanks⟩ := h
  have hend : List.Forall₂ Part.Takes [.field "number".toList .words, .mark '?'] _ :=
    .cons ⟨ws, hphrase⟩ (.cons ⟨_, hblanks, rfl⟩ .nil)
  have hfromIs := takes_letters_iff.2 ⟨_, _, his, takes_gap_iff.2 ⟨_, _, hgap'', hend, rfl⟩, rfl⟩
  have hfromMuch :=
    takes_letters_iff.2 ⟨_, _, hmuch, takes_gap_iff.2 ⟨_, _, hgap', hfromIs, rfl⟩, rfl⟩
  have hfromHow :=
    takes_letters_iff.2 ⟨_, _, hhow, takes_gap_iff.2 ⟨_, _, hgap, hfromMuch, rfl⟩, rfl⟩
  rw [Form.number_parts]
  refine ⟨_, hfromHow, by simp [flatten_singletons], ?_⟩
  simp only [fieldPieces_letters hhow, fieldPieces_letters hmuch, fieldPieces_letters his,
    fieldPieces, trim_phrase hphrase]

/-- What that pattern takes is a question for the number of the phrase that is reported. -/
theorem exists_asksNumber (h : List.Forall₂ Part.Takes Form.number.pattern.parts ps) :
    ∃ phrase, AsksNumber phrase ps.flatten ∧
      fieldPieces Form.number.pattern.parts ps = [phrase] := by
  rw [Form.number_parts] at h ⊢
  obtain ⟨how, _, hhow, hafterHow, rfl⟩ := takes_letters_iff.1 h
  obtain ⟨gap, _, hgap, hfromMuch, rfl⟩ := takes_gap_iff.1 hafterHow
  obtain ⟨much, _, hmuch, hafterMuch, rfl⟩ := takes_letters_iff.1 hfromMuch
  obtain ⟨gap', _, hgap', hfromIs, rfl⟩ := takes_gap_iff.1 hafterMuch
  obtain ⟨is, _, his, hafterIs, rfl⟩ := takes_letters_iff.1 hfromIs
  simp only [List.forall₂_cons_left_iff, List.forall₂_nil_left_iff] at hafterIs
  obtain ⟨gap'', _, hgap'', ⟨phrase, _, ⟨ws, hphrase⟩, ⟨_, _, ⟨blanks, hblanks, rfl⟩, rfl, rfl⟩,
    rfl⟩, rfl⟩ := hafterIs
  refine ⟨phrase, ?_, ?_⟩
  · simp only [List.flatten_append, List.flatten_cons, List.flatten_nil, flatten_singletons,
      List.append_nil]
    exact .question hhow hgap hmuch hgap' his hgap'' ⟨ws, hphrase⟩ hblanks
  · simp only [fieldPieces_letters hhow, fieldPieces_letters hmuch, fieldPieces_letters his,
      fieldPieces, trim_phrase hphrase]

theorem NumberAt.exists_decomposes (h : NumberAt line before phrase question) :
    ∃ ps, Form.number.pattern.Decomposes line before ps ∧ ps.flatten = question ∧
      fieldPieces Form.number.pattern.parts ps = [phrase] := by
  obtain ⟨hquestion, hline⟩ := h
  obtain ⟨ps, htakes, rfl, hfields⟩ := hquestion.exists_takes
  exact ⟨ps, ⟨htakes, hline⟩, rfl, hfields⟩

theorem exists_numberAt (h : Form.number.pattern.Decomposes line before ps) :
    ∃ phrase, NumberAt line before phrase ps.flatten ∧
      fieldPieces Form.number.pattern.parts ps = [phrase] := by
  obtain ⟨htakes, hline⟩ := h
  obtain ⟨phrase, hquestion, hfields⟩ := exists_asksNumber htakes
  exact ⟨phrase, ⟨hquestion, hline⟩, hfields⟩

/-- **No two questions for a number begin at the same place.** -/
theorem NumberAt.unique (h : NumberAt line before phrase question)
    (h' : NumberAt line before phrase' question') : question' = question ∧ phrase' = phrase := by
  obtain ⟨ps, hdec, rfl, hfields⟩ := h.exists_decomposes
  obtain ⟨ps', hdec', rfl, hfields'⟩ := h'.exists_decomposes
  obtain rfl : ps' = ps := Form.number_unambiguous.decomposes_unique hdec hdec'
  rw [hfields] at hfields'
  exact ⟨rfl, (List.cons.inj hfields').1.symm⟩

/-- The pattern of prices takes them, and reports their fields, the item trimmed. -/
theorem SaysPrice.exists_takes (h : SaysPrice phrase item credits s) :
    ∃ ps, List.Forall₂ Part.Takes Form.price.pattern.parts ps ∧ ps.flatten = s ∧
      fieldPieces Form.price.pattern.parts ps = [phrase, Text.trim item, credits] := by
  obtain ⟨⟨ws, hphrase⟩, hgap, hitem, hgap', his, hgap'', hcredits, hgap₃, hunit⟩ := h
  have hfromUnit := takes_word_iff.2 ⟨_, hunit, rfl⟩
  have hfromCredits : List.Forall₂ Part.Takes (.field "credits".toList .integer :: _) _ :=
    .cons hcredits (takes_gap_iff.2 ⟨_, _, hgap₃, hfromUnit, rfl⟩)
  have hlast := takes_letters_iff.2
    ⟨_, _, his, takes_gap_iff.2 ⟨_, _, hgap'', hfromCredits, rfl⟩, rfl⟩
  refine ⟨_, Form.price_takes_iff.2 ⟨_, _, _, _, _, rfl, ⟨ws, hphrase⟩, hgap, hitem, hgap', hlast⟩,
    by simp [flatten_singletons], ?_⟩
  have hunitPieces := fieldPieces_letters hunit [] []
  rw [List.append_nil, List.append_nil] at hunitPieces
  rw [Form.price_parts]
  simp only [Form.priceEnd, fieldPieces, fieldPieces_letters his, hunitPieces,
    trim_phrase hphrase, trim_digits hcredits]

/-- What that pattern takes is a price. -/
theorem exists_saysPrice (h : List.Forall₂ Part.Takes Form.price.pattern.parts ps) :
    ∃ phrase item credits, SaysPrice phrase item credits ps.flatten := by
  obtain ⟨phrase, gap, item, gap', last, rfl, hphrase, hgap, hitem, hgap', hlast⟩ :=
    Form.price_takes_iff.1 h
  obtain ⟨is, _, his, hafterIs, rfl⟩ := takes_letters_iff.1 hlast
  obtain ⟨gap'', _, hgap'', hfromCredits, rfl⟩ := takes_gap_iff.1 hafterIs
  obtain ⟨credits, _, hcredits, hafterCredits, rfl⟩ := List.forall₂_cons_left_iff.1 hfromCredits
  obtain ⟨gap₃, _, hgap₃, hfromUnit, rfl⟩ := takes_gap_iff.1 hafterCredits
  obtain ⟨unit, hunit, rfl⟩ := takes_word_iff.1 hfromUnit
  refine ⟨phrase, item, credits, ?_⟩
  simp only [List.flatten_append, List.flatten_cons, flatten_singletons]
  exact .price hphrase hgap hitem hgap' his hgap'' hcredits hgap₃ hunit

theorem SaysPrice.item_holds (h : SaysPrice phrase item credits s) : Kind.item.Holds item := by
  cases h with
  | price _ _ hitem => exact hitem

/-- An item does not begin with a blank, so that trimming takes blanks away at its end only. -/
theorem trim_item (hitem : Kind.item.Holds item) : Text.trim item = Text.trimEnd item := by
  obtain ⟨c, rest, hc, -, rfl⟩ := hitem
  rw [Text.trim, Text.trimStart_eq_self]
  intro d hd
  cases hd
  exact isBlank_of_isUpper hc

/-- **All cuts of a text as a price say the same**, up to blanks at the end of the item. -/
theorem SaysPrice.unique (h : SaysPrice phrase item credits s)
    (h' : SaysPrice phrase' item' credits' s) :
    phrase' = phrase ∧ credits' = credits ∧ Text.trimEnd item' = Text.trimEnd item := by
  obtain ⟨ps, htakes, hflatten, hfields⟩ := h.exists_takes
  obtain ⟨ps', htakes', hflatten', hfields'⟩ := h'.exists_takes
  have hsame := Form.price_fields_unique htakes' htakes (hflatten'.trans hflatten.symm)
  rw [hfields, hfields'] at hsame
  simp only [List.cons.injEq, and_true] at hsame
  rw [← trim_item h.item_holds, ← trim_item h'.item_holds]
  exact ⟨hsame.1, hsame.2.2, hsame.2.1⟩

namespace Form

/-- **A line asks for the number of the first question in it.** -/
theorem number_read_iff : Form.number.read line = some request ↔
    ∃ before phrase question, FirstNumberAt line before phrase question ∧
      request = .number phrase := by
  rw [read_eq_some_iff]
  constructor
  · rintro ⟨before, ps, hchosen, hrequest⟩
    obtain ⟨phrase, hstands, hfields⟩ := exists_numberAt hchosen.decomposes
    rw [hfields] at hrequest
    refine ⟨before, phrase, _, ⟨hstands, fun before' phrase' question' h' => ?_⟩,
      (Option.some.inj hrequest).symm⟩
    obtain ⟨ps', hdec', -⟩ := h'.exists_decomposes
    exact hchosen.leftmost before' ps' hdec'
  · rintro ⟨before, phrase, question, hfirst, rfl⟩
    obtain ⟨ps, hdec, -, hfields⟩ := hfirst.stands.exists_decomposes
    refine ⟨before, ps, ⟨hdec, fun before' ps' hdec' => ?_, fun ps' hdec' => ?_⟩, ?_⟩
    · obtain ⟨phrase', hstands', -⟩ := exists_numberAt hdec'
      exact hfirst.leftmost before' phrase' _ hstands'
    · exact Or.inl (number_unambiguous.decomposes_unique hdec hdec')
    · rw [hfields]
      rfl

theorem number_read_isSome_iff : (Form.number.read line).isSome ↔
    ∃ before phrase question, NumberAt line before phrase question := by
  constructor
  · intro h
    obtain ⟨request, hread⟩ := Option.isSome_iff_exists.1 h
    obtain ⟨before, phrase, question, hfirst, -⟩ := number_read_iff.1 hread
    exact ⟨before, phrase, question, hfirst.stands⟩
  · rintro ⟨before, phrase, question, hstands⟩
    obtain ⟨ps, hdec, -⟩ := hstands.exists_decomposes
    obtain ⟨before', ps', hchosen⟩ := exists_chooses Form.number.mark_not_blank hdec
    obtain ⟨phrase', -, hfields⟩ := exists_numberAt hchosen.decomposes
    refine Option.isSome_iff_exists.2 ⟨.number phrase', read_eq_some_iff.2 ⟨_, _, hchosen, ?_⟩⟩
    rw [hfields]
    rfl

/-- **A line is read as a question for a number just if there is one in it.**  No two of them begin
at the same place, the phrase is that of the first, and what comes after the line makes no
difference. -/
theorem number_read_spec (line : Text) :
    ((Form.number.read line).isSome ↔
      ∃ before phrase question, NumberAt line before phrase question) ∧
    (∀ before phrase question phrase' question', NumberAt line before phrase question →
      NumberAt line before phrase' question' → question' = question ∧ phrase' = phrase) ∧
    (∀ request, Form.number.read line = some request ↔
      ∃ before phrase question, FirstNumberAt line before phrase question ∧
        request = .number phrase) ∧
    ∀ request, Form.number.read line = some request →
      ∀ more, Form.number.read (line ++ more) = some request :=
  ⟨number_read_isSome_iff, fun _ _ _ _ _ => NumberAt.unique, fun _ => number_read_iff,
    fun _ => number_read_append⟩

/-- A second question is not read. -/
theorem number_read_spec_twoQuestions :
    Form.number.read "So, How much  is glob glob ?".toList = some (.number "glob glob".toList) ∧
      Form.number.read
          ("So, How much  is glob glob ?".toList ++ " And how much is how much is prok?".toList) =
        some (.number "glob glob".toList) := by
  have hread : Form.number.read "So, How much  is glob glob ?".toList =
      some (.number "glob glob".toList) := by
    decide +kernel
  exact ⟨hread, (number_read_spec _).2.2.2 _ hread _⟩

/-- **A line is read as a price just if it can be cut as one, blanks around it aside.**  All cuts say
the same, up to blanks at the end of the item, and this is what is read, with the item trimmed. -/
theorem price_read_spec (line : Text) :
    ((Form.price.read line).isSome ↔
      ∃ phrase item credits, SaysPrice phrase item credits (Text.trim line)) ∧
    ∀ phrase item credits, SaysPrice phrase item credits (Text.trim line) →
      Form.price.read line = some (.price phrase (Text.trim item) credits) ∧
      ∀ phrase' item' credits', SaysPrice phrase' item' credits' (Text.trim line) →
        phrase' = phrase ∧ credits' = credits ∧ Text.trimEnd item' = Text.trimEnd item := by
  have hread : ∀ {phrase item credits}, SaysPrice phrase item credits (Text.trim line) →
      Form.price.read line = some (.price phrase (Text.trim item) credits) := by
    intro phrase item credits h
    obtain ⟨ps, htakes, hflatten, hfields⟩ := h.exists_takes
    have hdec : Form.price.pattern.Decomposes line [] ps := ⟨htakes, rfl, hflatten⟩
    rw [price_read_of_decomposes hdec, hfields]
    rfl
  refine ⟨⟨fun h => ?_, ?_⟩, fun phrase item credits h => ⟨hread h, fun _ _ _ => h.unique⟩⟩
  · obtain ⟨request, hsome⟩ := Option.isSome_iff_exists.1 h
    obtain ⟨before, ps, htakes, -, hflatten⟩ := exists_decomposition hsome
    rw [← hflatten]
    exact exists_saysPrice htakes
  · rintro ⟨phrase, item, credits, h⟩
    rw [hread h]
    rfl

/-- An item that itself reads like a price goes on to the last credits of the line. -/
theorem price_read_spec_nested :
    (∃ item, SaysPrice "glob".toList item "5".toList
      (Text.trim " glob Silver is 34 Credits is 5 credits".toList)) ∧
    ∀ phrase item credits,
      SaysPrice phrase item credits (Text.trim " glob Silver is 34 Credits is 5 credits".toList) →
        phrase = "glob".toList ∧ Text.trim item = "Silver is 34 Credits".toList ∧
          credits = "5".toList := by
  have hread : Form.price.read " glob Silver is 34 Credits is 5 credits".toList =
      some (.price "glob".toList "Silver is 34 Credits".toList "5".toList) := by
    decide +kernel
  obtain ⟨hsome, hcut⟩ := price_read_spec " glob Silver is 34 Credits is 5 credits".toList
  have hfields : ∀ phrase item credits,
      SaysPrice phrase item credits (Text.trim " glob Silver is 34 Credits is 5 credits".toList) →
        phrase = "glob".toList ∧ Text.trim item = "Silver is 34 Credits".toList ∧
          credits = "5".toList := by
    intro phrase item credits h
    have hsame := (hcut phrase item credits h).1.symm.trans hread
    simp only [Option.some.injEq, Request.price.injEq] at hsame
    exact hsame
  obtain ⟨phrase, item, credits, h⟩ := hsome.1 (Option.isSome_iff_exists.2 ⟨_, hread⟩)
  obtain ⟨rfl, -, rfl⟩ := hfields phrase item credits h
  exact ⟨⟨item, h⟩, hfields⟩

end Form

end Tradespeak
