import Tradespeak.Proofs.Pattern.Closing
import Tradespeak.Proofs.Request.CostQuestion

/-!
# What follows a question

* `Form.number_closed`, `Form.cost_closed` — a question mark closes both questions, so that they are
  found at the same place of a line, whatever follows it.
* `Form.number_read_append` — what follows a question for a number makes no difference.
* `LongestItem` — the item that is read: the longest one that a question mark comes after.
* `MarkAhead` — the texts that prolong an item: a question mark is in its reach.
* `LongestItem.trim_eq_iff` — the item stays the same just if none is.

Principal result: `Form.cost_read_append` — what follows a question for a cost changes nothing but the
item, and this just if another question mark is in reach.
-/

set_option autoImplicit false

namespace Tradespeak

open Pattern

/-! ## The item of a question -/

/-- An item stands at the front of the text, and a question mark comes after it, blanks aside. -/
def AsksFor (item s : Text) : Prop :=
  Kind.item.Holds item ∧ ∃ blanks rest, (∀ c ∈ blanks, isBlank c = true) ∧
    s = item ++ (blanks ++ '?' :: rest)

/-- The longest item at the front of the text that a question mark comes after. -/
structure LongestItem (item s : Text) : Prop where
  asked : AsksFor item s
  longest : ∀ item', AsksFor item' s → item'.length ≤ item.length

/-- A question mark is in reach of what stands before the text: it is on the first line of the text,
or begins what comes after it, blanks aside. -/
def MarkAhead (s : Text) : Prop :=
  ∃ onLine blanks rest, '\n' ∉ onLine ∧ (∀ c ∈ blanks, isBlank c = true) ∧
    s = onLine ++ (blanks ++ '?' :: rest)

variable {item item' s t blanks following more : Text}

theorem item_holds_append_iff (hs : Kind.item.Holds s) :
    Kind.item.Holds (s ++ t) ↔ '\n' ∉ t := by
  obtain ⟨c, rest, hc, hrest, rfl⟩ := hs
  constructor
  · rintro ⟨d, rest', -, hrest', heq⟩ hmem
    cases heq
    exact hrest' (List.mem_append_right _ hmem)
  · intro ht
    refine ⟨c, rest ++ t, hc, ?_, rfl⟩
    rw [List.mem_append, not_or]
    exact ⟨hrest, ht⟩

/-- If a question mark is in reach, the item goes on beyond the one that it ended with. -/
theorem LongestItem.goes_on (hitem : Kind.item.Holds item) (hbreak : '\n' ∉ blanks)
    (hahead : MarkAhead following) (h : LongestItem item' (item ++ (blanks ++ '?' :: following))) :
    item ++ (blanks ++ ['?']) <+: item' := by
  obtain ⟨onLine, blanks', rest, honLine, hb', rfl⟩ := hahead
  have hlonger : AsksFor (item ++ (blanks ++ '?' :: onLine))
      (item ++ (blanks ++ '?' :: (onLine ++ (blanks' ++ '?' :: rest)))) := by
    refine ⟨(item_holds_append_iff hitem).2 ?_, blanks', rest, hb', by simp⟩
    simp only [List.mem_append, List.mem_cons, not_or]
    exact ⟨hbreak, by decide, honLine⟩
  have hlength := h.longest _ hlonger
  obtain ⟨-, blanks₁, rest₁, -, hs⟩ := h.asked
  simp only [List.length_append, List.length_cons] at hlength
  have hfront : item ++ (blanks ++ ['?']) <+:
      item ++ (blanks ++ '?' :: (onLine ++ (blanks' ++ '?' :: rest))) :=
    ⟨onLine ++ (blanks' ++ '?' :: rest), by simp⟩
  refine List.prefix_of_prefix_length_le hfront ⟨_, hs.symm⟩ ?_
  simp only [List.length_append, List.length_cons, List.length_nil]
  omega

/-- If no question mark is in reach, the longest item stays the longest. -/
theorem LongestItem.eq_of_not_ahead (h : LongestItem item (item ++ (blanks ++ '?' :: following)))
    (h' : LongestItem item' (item ++ (blanks ++ '?' :: (following ++ more))))
    (hb : ∀ c ∈ blanks, isBlank c = true)
    (hstays : '\n' ∈ blanks ∨ ¬ MarkAhead (following ++ more)) : item' = item := by
  have hle : item.length ≤ item'.length :=
    h'.longest item ⟨h.asked.1, blanks, following ++ more, hb, rfl⟩
  obtain ⟨hitem', blanks', rest', hb', hs⟩ := h'.asked
  obtain ⟨t, rfl⟩ : item <+: item' :=
    List.prefix_of_prefix_length_le ⟨_, rfl⟩ ⟨_, hs.symm⟩ hle
  have hbreak := (item_holds_append_iff h.asked.1).1 hitem'
  rw [List.append_assoc] at hs
  -- the item could have taken blanks before its question mark already without what follows
  have hblanks : ∀ u, blanks = t ++ u → item ++ t = item := by
    rintro u rfl
    have hlonger : AsksFor (item ++ t) (item ++ ((t ++ u) ++ '?' :: following)) :=
      ⟨hitem', u, following, fun c hc => hb c (List.mem_append_right _ hc), by simp⟩
    have hlength := h.longest _ hlonger
    rw [List.length_append] at hlength
    rw [List.eq_nil_of_length_eq_zero (by omega : t.length = 0), List.append_nil]
  rcases List.append_eq_append_iff.1 (List.append_cancel_left hs) with ⟨u, rfl, hu⟩ | ⟨u, hu, -⟩
  · cases u with
    | nil => exact hblanks [] (by simp)
    | cons c u =>
      -- the item goes on beyond its question mark, so that another one is in reach
      rw [List.cons_append, List.cons.injEq] at hu
      rw [List.mem_append, List.mem_cons, not_or, not_or] at hbreak
      have hahead : MarkAhead (following ++ more) :=
        ⟨u, blanks', rest', hbreak.2.2, hb', hu.2⟩
      rcases hstays with hmem | hnot
      · exact absurd hmem hbreak.1
      · exact absurd hahead hnot
  · exact hblanks u hu

/-- **The item stays the same just if no question mark is in reach**, or if a line break comes before
the one that ends it. -/
theorem LongestItem.trim_eq_iff (h : LongestItem item (item ++ (blanks ++ '?' :: following)))
    (h' : LongestItem item' (item ++ (blanks ++ '?' :: (following ++ more))))
    (hb : ∀ c ∈ blanks, isBlank c = true) :
    Text.trim item' = Text.trim item ↔ '\n' ∈ blanks ∨ ¬ MarkAhead (following ++ more) := by
  constructor
  · intro htrim
    by_contra hgoes
    rw [not_or, not_not] at hgoes
    obtain ⟨t, rfl⟩ := h'.goes_on h.asked.1 hgoes.1 hgoes.2
    have hmark : isBlank '?' = false := by decide
    have hcount := congrArg (List.count '?') htrim
    rw [Text.count_trim hmark, Text.count_trim hmark] at hcount
    simp only [List.count_append, List.count_singleton_self] at hcount
    omega
  · intro hstays
    rw [h.eq_of_not_ahead h' hb hstays]

theorem MarkAhead.of_append (h : MarkAhead (s ++ more)) (hmore : '?' ∉ more) : MarkAhead s := by
  obtain ⟨onLine, blanks, rest, honLine, hb, heq⟩ := h
  rw [← List.append_assoc] at heq
  rcases List.append_eq_append_iff.1 heq with ⟨t, -, rfl⟩ | ⟨t, hs, ht⟩
  · exact absurd (List.mem_append_right t List.mem_cons_self) hmore
  · cases t with
    | nil =>
      rw [List.nil_append] at ht
      exact absurd (ht ▸ List.mem_cons_self) hmore
    | cons c t =>
      rw [List.cons_append, List.cons.injEq] at ht
      exact ⟨onLine, blanks, t, honLine, hb, by rw [hs, ht.1, List.append_assoc]⟩

/-! ## Questions that are closed -/

namespace Form

variable {line phrase : Text} {request : Request}

/-- A question mark closes a question for a number. -/
theorem number_closed : ClosedBy '?' Form.number.pattern.parts := by
  have hparts : Form.number.pattern.parts =
      (letters "how".toList ++ .gap :: (letters "much".toList ++ .gap :: (letters "is".toList ++
        [.gap, .field "number".toList .words]))) ++ [.mark '?'] := by
    simp [number_parts]
  rw [hparts]
  exact .of_mark (by decide) (by decide +kernel)

/-- A question mark closes a question for a cost. -/
theorem cost_closed : ClosedBy '?' Form.cost.pattern.parts := by
  have hparts : Form.cost.pattern.parts =
      (costOpening ++ [.gap, .field "number".toList .words, .gap]) ++
        [.field "item".toList .item, .mark '?'] := by
    simp [cost_parts]
  rw [hparts]
  exact .of_item_mark (by decide) (by decide) (by decide +kernel)

/-- **What follows a question for a number makes no difference.** -/
theorem number_read_append (h : Form.number.read line = some request) (more : Text) :
    Form.number.read (line ++ more) = some request := by
  obtain ⟨before, ps, hchosen, hrequest⟩ := read_eq_some_iff.1 h
  obtain ⟨ps', hchosen'⟩ :=
    number_closed.exists_chooses_append rfl Form.number.mark_not_blank hchosen more
  obtain rfl : ps' = ps := number_unambiguous.decomposes_unique
    (decomposes_append rfl hchosen.decomposes more) hchosen'.decomposes
  exact read_eq_some_iff.2 ⟨before, ps', hchosen', hrequest⟩

/-- The item of the question that is chosen is the longest that a question mark comes after. -/
theorem cost_longest {opening : List Text} {before gap blanks item mark rest : Text}
    (hpieces : CostPieces opening gap phrase blanks item mark)
    (h : Form.cost.pattern.Chooses line before (opening ++ [gap, phrase, blanks, item, mark]))
    (hline : line = before ++ ((opening ++ [gap, phrase, blanks, item, mark]).flatten ++ rest)) :
    LongestItem item (item ++ (mark ++ rest)) := by
  obtain ⟨spaces, hspaces, rfl⟩ := hpieces.mark
  refine ⟨⟨hpieces.item, spaces, rest, hspaces, by simp⟩, fun item' hasked => ?_⟩
  obtain ⟨hitem', spaces', rest', hspaces', hs⟩ := hasked
  have hdec : Form.cost.pattern.Decomposes line before
      (opening ++ [gap, phrase, blanks, item', spaces' ++ ['?']]) := by
    refine ⟨cost_takes_iff.2 ⟨_, _, _, _, _, _, rfl, { hpieces with
      item := hitem'
      mark := ⟨spaces', hspaces', rfl⟩ }⟩, rest', ?_⟩
    rw [hline]
    simpa using hs
  by_contra hlonger
  have hlex : List.Lex (· < ·)
      ((opening ++ [gap, phrase, blanks, item, spaces ++ ['?']]).map List.length)
      ((opening ++ [gap, phrase, blanks, item', spaces' ++ ['?']]).map List.length) := by
    rw [List.map_append, List.map_append]
    exact List.Lex.append_left _ (.cons (.cons (.cons (.rel (not_le.1 hlonger))))) _
  rcases h.greatest _ hdec with heq | hlex'
  · rw [heq] at hlex
    exact absurd hlex (List.lt_irrefl _)
  · exact absurd hlex' (List.lt_asymm hlex)

/-- Where a question for a cost is read, and what is read when more is put after the line. -/
theorem cost_read_following (h : Form.cost.read line = some (.cost phrase item)) :
    ∃ asked named blanks following, line = asked ++ (named ++ (blanks ++ '?' :: following)) ∧
      (∀ c ∈ blanks, isBlank c = true) ∧ Text.trim named = item ∧
      LongestItem named (named ++ (blanks ++ '?' :: following)) ∧
      ∀ more, ∃ named', LongestItem named' (named ++ (blanks ++ '?' :: (following ++ more))) ∧
        Form.cost.read (line ++ more) = some (.cost phrase (Text.trim named')) := by
  obtain ⟨before, ps, hchosen, hrequest⟩ := read_eq_some_iff.1 h
  obtain ⟨opening, gap, phrase', gap', named, mark, rfl, hpieces⟩ :=
    cost_takes_iff.1 hchosen.decomposes.1
  rw [cost_fieldPieces hpieces] at hrequest
  cases hrequest
  obtain ⟨following, rfl⟩ := hchosen.decomposes.2
  have hlongest := cost_longest hpieces hchosen rfl
  obtain ⟨blanks, hb, rfl⟩ := hpieces.mark
  refine ⟨before ++ (opening.flatten ++ (gap ++ (phrase ++ gap'))), named, blanks, following,
    by simp, hb, rfl, by simpa using hlongest, fun more => ?_⟩
  obtain ⟨ps', hchosen'⟩ :=
    cost_closed.exists_chooses_append rfl Form.cost.mark_not_blank hchosen more
  obtain ⟨opening', gap₁, phrase₁, gap₁', named', mark', rfl, hpieces'⟩ :=
    cost_takes_iff.1 hchosen'.decomposes.1
  obtain ⟨following', hline⟩ := hchosen'.decomposes.2
  have hlongest' := cost_longest hpieces' hchosen' hline
  rw [List.append_assoc, List.append_assoc] at hline
  obtain ⟨rfl, rfl, rfl, rfl, hitems⟩ :=
    cost_pieces_unique hpieces hpieces' (List.append_cancel_left hline)
  rw [← hitems] at hlongest'
  refine ⟨named', by simpa using hlongest', read_eq_some_iff.2 ⟨before, _, hchosen', ?_⟩⟩
  rw [cost_fieldPieces hpieces']
  rfl

/-- **What follows a question for a cost changes nothing but the item.**  When a line asks for a cost,
it does so with the same phrase whatever is put after it.  The item is the longest that a question
mark comes after.  It stays the same just if no question mark is in its reach, and so it does if none
is put there. -/
theorem cost_read_append (h : Form.cost.read line = some (.cost phrase item)) :
    ∃ asked named blanks following, line = asked ++ (named ++ (blanks ++ '?' :: following)) ∧
      (∀ c ∈ blanks, isBlank c = true) ∧ Text.trim named = item ∧
      (∀ more, ∃ named', LongestItem named' (named ++ (blanks ++ '?' :: (following ++ more))) ∧
        Form.cost.read (line ++ more) = some (.cost phrase (Text.trim named')) ∧
        (Text.trim named' = item ↔ '\n' ∈ blanks ∨ ¬ MarkAhead (following ++ more))) ∧
      ∀ more, '?' ∉ more → Form.cost.read (line ++ more) = some (.cost phrase item) := by
  obtain ⟨asked, named, blanks, following, hline, hb, rfl, hlongest, hlater⟩ :=
    cost_read_following h
  refine ⟨asked, named, blanks, following, hline, hb, rfl, fun more => ?_, fun more hmore => ?_⟩
  · obtain ⟨named', hlongest', hread⟩ := hlater more
    exact ⟨named', hlongest', hread, hlongest.trim_eq_iff hlongest' hb⟩
  · -- no question mark is in reach as it is, so that none comes into reach
    have hstays : '\n' ∈ blanks ∨ ¬ MarkAhead (following ++ []) :=
      (hlongest.trim_eq_iff (by rwa [List.append_nil]) hb).1 rfl
    rw [List.append_nil] at hstays
    obtain ⟨named', hlongest', hread⟩ := hlater more
    rw [hread, hlongest.eq_of_not_ahead hlongest' hb
      (hstays.imp_right fun hnot hahead => hnot (hahead.of_append hmore))]

/-- What is put after the question is left aside if no question mark comes with it. -/
theorem cost_read_append_quickly :
    Form.cost.read "So, how many credits is glob glob Gold? Quickly".toList =
        some (.cost "glob glob".toList "Gold".toList) ∧
      ∀ more : Text, '?' ∉ more →
        Form.cost.read ("So, how many credits is glob glob Gold? Quickly".toList ++ more) =
          some (.cost "glob glob".toList "Gold".toList) := by
  have hread : Form.cost.read "So, how many credits is glob glob Gold? Quickly".toList =
      some (.cost "glob glob".toList "Gold".toList) := by
    decide +kernel
  obtain ⟨asked, named, blanks, following, -, -, -, -, hlater⟩ := cost_read_append hread
  exact ⟨hread, hlater⟩

/-- A second question mark on the line prolongs the item. -/
theorem item_prolonged : ¬ ∀ line more phrase item : Text,
    Form.cost.read line = some (.cost phrase item) →
      Form.cost.read (line ++ more) = some (.cost phrase item) := by
  intro hsame
  have hread : Form.cost.read "how many credits is glob Silver?".toList =
      some (.cost "glob".toList "Silver".toList) := by
    decide +kernel
  have hlater : Form.cost.read
      ("how many credits is glob Silver?".toList ++ " Anything else?".toList) =
        some (.cost "glob".toList "Silver? Anything else".toList) := by
    decide +kernel
  rw [hsame _ _ _ _ hread] at hlater
  exact absurd hlater (by decide +kernel)

end Form

end Tradespeak
