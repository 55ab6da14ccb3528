import Mathlib.Data.List.Basic
import Tradespeak.Proofs.Pattern.Greedy
import Tradespeak.Proofs.Text.Quoted

/-!
# The faults of written patterns

* `Pattern.FieldAt` — the field that a `$` of a text begins, said by its place alone.
* `Pattern.Offends`, `Pattern.FirstFault` — why a `$` is at fault, and the leftmost fault of a text.
* `Pattern.IsFieldList` — the names of the fields of a text, one for each of its `$` in order.
* `Pattern.Scanned` — what is known when the reader has come to a place; `Scanned.skip` and
  `Scanned.field` keep it over what is no field and over a field.
* `Pattern.partsAfter_scanEnds` — where the reader ends, from any place of the text.
* `Pattern.badNameFrom_name` — the name that is found not to be an identifier is the first one.
* `Pattern.Fault.message_injective` — the message tells the fault.
* `Pattern.read_reads` — one of three things becomes of a written pattern.

Principal result: `Pattern.read_outcome`.
-/

set_option autoImplicit false

namespace Tradespeak.Pattern

variable {s skipped tail name name' kind kind' rest : Text} {position : ℕ} {fault fault' : Fault}
  {seen : List Text}

/-! ## Fields by their places -/

/-- **The field that a `$` at the position begins**: a name that begins with an ASCII letter or an
underscore, a colon, and all the lower-case letters that follow it. -/
def FieldAt (s : Text) (position : ℕ) (name kind : Text) : Prop :=
  ∃ rest, s.drop position = '$' :: (name ++ ':' :: (kind ++ rest)) ∧ IsFieldName name ∧
    IsRun isLower kind ∧ ∀ c ∈ rest.head?, isLower c = false

/-- **How the `$` at a position is at fault.**  The reasons are looked at in this order. -/
inductive Offends (s : Text) (position : ℕ) : Fault → Prop
  /-- It begins no field. -/
  | badField (hdollar : s[position]? = some '$')
      (hnone : ∀ name kind, ¬ FieldAt s position name kind) : Offends s position (.badField position)
  /-- It begins a field of no known kind. -/
  | unknownKind {name kind : Text} (hfield : FieldAt s position name kind)
      (hkind : ∀ known : Kind, known.name ≠ kind) : Offends s position (.unknownKind kind)
  /-- It begins a field of a known kind, but a field before it has the name. -/
  | duplicateField {name other : Text} {kind : Kind} {earlier : ℕ}
      (hfield : FieldAt s position name kind.name) (hearlier : earlier < position)
      (hsame : FieldAt s earlier name other) : Offends s position (.duplicateField name)

/-- The fault is that of the leftmost `$` that is at fault. -/
def FirstFault (s : Text) (fault : Fault) : Prop :=
  ∃ position, Offends s position fault ∧ ∀ earlier < position, ∀ other, ¬ Offends s earlier other

/-- **No `$` of the text is at fault**: every one begins a field of a known kind, with a name that no
field before it has. -/
def Faultless (s : Text) : Prop :=
  ∀ position, s[position]? = some '$' → ∃ (name : Text) (kind : Kind),
    FieldAt s position name kind.name ∧ ∀ earlier < position, ∀ other, ¬ FieldAt s earlier name other

/-- **The names of the fields of a text**: every `$` begins a field, and these are their names in
order. -/
def IsFieldList (s : Text) (names : List Text) : Prop :=
  List.Forall₂ (fun position name => ∃ kind, FieldAt s position name kind) (s.idxsOf '$') names

/-- The name is that of the leftmost field of the text whose name is no identifier. -/
def FirstBadName (s name : Text) : Prop :=
  ∃ position kind, FieldAt s position name kind ∧ isIdentifier name = false ∧
    ∀ earlier < position, ∀ other kind', FieldAt s earlier other kind' → isIdentifier other = true

theorem IsFieldName.dollar_not_mem (h : IsFieldName name) : '$' ∉ name := by
  obtain ⟨c, rest, hstart, hrest, rfl⟩ := h
  intro hmem
  rcases List.mem_cons.1 hmem with rfl | hmem
  · exact absurd hstart (by decide)
  · exact absurd (hrest _ hmem) (by decide +kernel)

/-- What is cut off after a `$` that begins a field. -/
theorem cutField_of_field (hname : IsFieldName name) (hkind : IsRun isLower kind)
    (hend : ∀ c ∈ rest.head?, isLower c = false) :
    cutField (name ++ ':' :: (kind ++ rest)) = some (name, kind, rest) := by
  obtain ⟨c, body, hstart, hbody, rfl⟩ := hname
  have hcolon : ∀ d ∈ (':' :: (kind ++ rest)).head?, isWordChar d = false := by
    intro d hd
    cases hd
    decide +kernel
  rw [List.cons_append, cutField, if_pos hstart, dropWhile_run_append hbody hcolon]
  simp only [takeWhile_run_append hbody hcolon, takeWhile_run_append hkind.2 hend,
    dropWhile_run_append hkind.2 hend, if_neg hkind.1]

theorem fieldAt_iff (hs : s.drop position = '$' :: tail) :
    FieldAt s position name kind ↔ ∃ rest, cutField tail = some (name, kind, rest) := by
  constructor
  · rintro ⟨rest, hfield, hname, hkind, hend⟩
    obtain rfl := (List.cons.inj (hs.symm.trans hfield)).2
    exact ⟨rest, cutField_of_field hname hkind hend⟩
  · rintro ⟨rest, hcut⟩
    obtain ⟨hname, hkind, rfl, hend⟩ := cutField_spec hcut
    exact ⟨rest, hs, hname, hkind, hend⟩

theorem dollar_of_drop (hs : s.drop position = '$' :: tail) : s[position]? = some '$' := by
  rw [← List.head?_drop, hs, List.head?_cons]

theorem FieldAt.dollar (h : FieldAt s position name kind) : s[position]? = some '$' := by
  obtain ⟨rest, hs, -⟩ := h
  exact dollar_of_drop hs

theorem FieldAt.unique (h : FieldAt s position name kind) (h' : FieldAt s position name' kind') :
    name = name' ∧ kind = kind' := by
  have hcut := h
  obtain ⟨rest, hs, -⟩ := h
  obtain ⟨_, hcut⟩ := (fieldAt_iff hs).1 hcut
  obtain ⟨_, hcut'⟩ := (fieldAt_iff hs).1 h'
  cases hcut.symm.trans hcut'
  exact ⟨rfl, rfl⟩

theorem Offends.dollar (h : Offends s position fault) : s[position]? = some '$' := by
  cases h with
  | badField hdollar _ => exact hdollar
  | unknownKind hfield _ => exact hfield.dollar
  | duplicateField hfield _ _ => exact hfield.dollar

/-- A `$` has at most one fault, the first reason that applies. -/
theorem Offends.unique (h : Offends s position fault) (h' : Offends s position fault') :
    fault = fault' := by
  cases h with
  | badField _ hnone =>
    cases h' with
    | badField => rfl
    | unknownKind hfield _ => exact absurd hfield (hnone _ _)
    | duplicateField hfield _ _ => exact absurd hfield (hnone _ _)
  | unknownKind hfield hkind =>
    cases h' with
    | badField _ hnone => exact absurd hfield (hnone _ _)
    | unknownKind hfield' _ => rw [(hfield.unique hfield').2]
    | duplicateField hfield' _ _ => exact absurd (hfield.unique hfield').2.symm (hkind _)
  | duplicateField hfield _ _ =>
    cases h' with
    | badField _ hnone => exact absurd hfield (hnone _ _)
    | unknownKind hfield' hkind => exact absurd (hfield.unique hfield').2 (hkind _)
    | duplicateField hfield' _ _ => rw [(hfield.unique hfield').1]

theorem FirstFault.unique (h : FirstFault s fault) (h' : FirstFault s fault') : fault = fault' := by
  obtain ⟨position, hoffends, hfirst⟩ := h
  obtain ⟨position', hoffends', hfirst'⟩ := h'
  rcases lt_trichotomy position position' with hlt | rfl | hlt
  · exact absurd hoffends (hfirst' _ hlt _)
  · exact hoffends.unique hoffends'
  · exact absurd hoffends' (hfirst _ hlt _)

theorem faultless_iff : Faultless s ↔ ∀ position fault, ¬ Offends s position fault := by
  constructor
  · intro h position fault hoffends
    obtain ⟨name, kind, hfield, hnew⟩ := h position hoffends.dollar
    cases hoffends with
    | badField _ hnone => exact hnone _ _ hfield
    | unknownKind hfield' hkind => exact hkind kind (hfield.unique hfield').2
    | duplicateField hfield' hearlier hsame =>
      obtain ⟨rfl, -⟩ := hfield.unique hfield'
      exact hnew _ hearlier _ hsame
  · intro h position hdollar
    by_cases hfield : ∃ name kind, FieldAt s position name kind
    · obtain ⟨name, kind, hfield⟩ := hfield
      by_cases hkind : ∃ known : Kind, known.name = kind
      · obtain ⟨known, rfl⟩ := hkind
        refine ⟨name, known, hfield, fun earlier hlt other hsame => ?_⟩
        exact h position _ (.duplicateField hfield hlt hsame)
      · exact absurd (Offends.unknownKind hfield (not_exists.1 hkind)) (h position _)
    · refine absurd (Offends.badField hdollar fun name kind hname => ?_) (h position _)
      exact hfield ⟨name, kind, hname⟩

theorem FirstFault.not_faultless (h : FirstFault s fault) : ¬ Faultless s := by
  obtain ⟨position, hoffends, -⟩ := h
  exact fun hclean => faultless_iff.1 hclean position fault hoffends

theorem FirstBadName.unique (h : FirstBadName s name) (h' : FirstBadName s name') :
    name = name' := by
  obtain ⟨position, kind, hfield, hbad, hfirst⟩ := h
  obtain ⟨position', kind', hfield', hbad', hfirst'⟩ := h'
  rcases lt_trichotomy position position' with hlt | rfl | hlt
  · exact absurd (hfirst' _ hlt _ _ hfield) (by simp [hbad])
  · exact (hfield.unique hfield').1
  · exact absurd (hfirst _ hlt _ _ hfield') (by simp [hbad'])

theorem FirstBadName.not_all (h : FirstBadName s name) :
    ¬ ∀ position name kind, FieldAt s position name kind → isIdentifier name = true := by
  obtain ⟨position, kind, hfield, hbad, -⟩ := h
  intro hall
  rw [hall position name kind hfield] at hbad
  cases hbad

/-! ## One step of the reader -/

/-- **What is known when the reader has come to a position**: no `$` before it is at fault, and the
names that have been seen are those of the fields before it. -/
structure Scanned (s : Text) (position : ℕ) (seen : List Text) : Prop where
  clean : ∀ earlier < position, ∀ fault, ¬ Offends s earlier fault
  names : ∀ name, name ∈ seen ↔ ∃ earlier < position, ∃ kind, FieldAt s earlier name kind

/-- There is no `$` where none is skipped. -/
theorem no_dollar_within (hs : s.drop position = skipped ++ rest) (hno : '$' ∉ skipped) {p : ℕ}
    (hle : position ≤ p) (hlt : p < position + skipped.length) : s[p]? ≠ some '$' := by
  intro hdollar
  obtain ⟨k, rfl⟩ := Nat.exists_eq_add_of_le hle
  rw [← List.getElem?_drop, hs, List.getElem?_append_left (by omega)] at hdollar
  exact hno (List.mem_of_getElem? hdollar)

/-- **What is known stays so over what holds no `$`.** -/
theorem Scanned.skip (h : Scanned s position seen) (hs : s.drop position = skipped ++ rest)
    (hno : '$' ∉ skipped) : Scanned s (position + skipped.length) seen := by
  have hbefore : ∀ p < position + skipped.length, s[p]? = some '$' → p < position := by
    intro p hlt hdollar
    by_contra hle
    exact no_dollar_within hs hno (not_lt.1 hle) hlt hdollar
  constructor
  · intro earlier hlt fault hoffends
    exact h.clean earlier (hbefore _ hlt hoffends.dollar) fault hoffends
  · intro name
    rw [h.names name]
    constructor
    · rintro ⟨earlier, hlt, kind, hfield⟩
      exact ⟨earlier, by omega, kind, hfield⟩
    · rintro ⟨earlier, hlt, kind, hfield⟩
      exact ⟨earlier, hbefore _ hlt hfield.dollar, kind, hfield⟩

/-- **A field of a known kind with a new name is not at fault**, and its name is seen after it. -/
theorem Scanned.field {known : Kind} (h : Scanned s position seen)
    (hfield : FieldAt s position name known.name) (hnew : name ∉ seen) :
    Scanned s (position + 1) (name :: seen) := by
  constructor
  · intro earlier hlt fault hoffends
    rcases Nat.lt_succ_iff_lt_or_eq.1 hlt with hlt | rfl
    · exact h.clean earlier hlt fault hoffends
    cases hoffends with
    | badField _ hnone => exact hnone _ _ hfield
    | unknownKind hfield' hkind => exact hkind known (hfield.unique hfield').2
    | duplicateField hfield' hearlier hsame =>
      obtain ⟨rfl, -⟩ := hfield.unique hfield'
      exact hnew ((h.names name).2 ⟨_, hearlier, _, hsame⟩)
  · intro other
    rw [List.mem_cons, h.names other]
    constructor
    · rintro (rfl | ⟨earlier, hlt, kind, hother⟩)
      · exact ⟨position, by omega, _, hfield⟩
      · exact ⟨earlier, by omega, kind, hother⟩
    · rintro ⟨earlier, hlt, kind, hother⟩
      rcases Nat.lt_succ_iff_lt_or_eq.1 hlt with hlt | rfl
      · exact Or.inr ⟨earlier, hlt, kind, hother⟩
      · exact Or.inl (hother.unique hfield).1

/-! ## The whole run of the reader -/

/-- **Where the reader ends** that has come to a position: at the leftmost fault of the text, or with
parts whose fields are those from the position on, all of them new and of different names. -/
inductive ScanEnds (s : Text) (position : ℕ) (seen : List Text) : Except Fault (List Part) → Prop
  | fault {fault : Fault} (h : FirstFault s fault) : ScanEnds s position seen (.error fault)
  | parts {parts : List Part} (hclean : Faultless s)
      (hnames : List.Forall₂ (fun position name => ∃ kind, FieldAt s position name kind)
        ((s.drop position).idxsOf '$' position) (parts.filterMap (·.fieldName?)))
      (hnew : ∀ name ∈ parts.filterMap (·.fieldName?), name ∉ seen)
      (hnodup : (parts.filterMap (·.fieldName?)).Nodup) : ScanEnds s position seen (.ok parts)

theorem idxsOf_eq_nil (hno : '$' ∉ skipped) : skipped.idxsOf '$' position = [] := by
  rw [List.idxsOf_eq_nil_iff]
  intro c hc
  exact beq_eq_false_iff_ne.2 (ne_of_mem_of_not_mem hc hno)

theorem drop_skipped (hs : s.drop position = skipped ++ rest) :
    s.drop (position + skipped.length) = rest := by
  rw [← List.drop_drop, hs, List.drop_left]

/-- A part that is no field is put before the later ones. -/
theorem ScanEnds.plain {part : Part} {result : Except Fault (List Part)}
    (hs : s.drop position = skipped ++ rest) (hno : '$' ∉ skipped) (hpart : part.fieldName? = none)
    (h : ScanEnds s (position + skipped.length) seen result) :
    ScanEnds s position seen (result.map (part :: ·)) := by
  cases h with
  | fault h => exact .fault h
  | @parts parts hclean hnames hnew hnodup =>
    have hsame : (part :: parts).filterMap (·.fieldName?) = parts.filterMap (·.fieldName?) := by
      rw [List.filterMap_cons, hpart]
    rw [drop_skipped hs] at hnames
    refine .parts hclean ?_ (hsame ▸ hnew) (hsame ▸ hnodup)
    rw [hsame, hs, List.idxsOf_append, idxsOf_eq_nil hno]
    exact hnames

/-- A field is put before the later ones. -/
theorem ScanEnds.field {known : Kind} {result : Except Fault (List Part)}
    (hs : s.drop position = '$' :: (skipped ++ rest)) (hno : '$' ∉ skipped)
    (hfield : FieldAt s position name kind) (hnew : name ∉ seen)
    (h : ScanEnds s (position + 1 + skipped.length) (name :: seen) result) :
    ScanEnds s position seen (result.map (.field name known :: ·)) := by
  have hs' : s.drop (position + 1) = skipped ++ rest := by
    rw [← List.drop_drop, hs]
    rfl
  cases h with
  | fault h => exact .fault h
  | @parts parts hclean hnames hlater hnodup =>
    rw [drop_skipped hs'] at hnames
    refine .parts hclean ?_ ?_ ?_
    · rw [hs, List.idxsOf_cons, if_pos (beq_self_eq_true _), List.idxsOf_append, idxsOf_eq_nil hno]
      exact .cons ⟨kind, hfield⟩ hnames
    · intro other hother
      rcases List.mem_cons.1 hother with rfl | hother
      · exact hnew
      · exact fun hseen => hlater other hother (List.mem_cons_of_mem _ hseen)
    · refine List.nodup_cons.2 ⟨fun hmem => ?_, hnodup⟩
      exact hlater name hmem List.mem_cons_self

theorem Kind.ofName?_name (known : Kind) : Kind.ofName? known.name = some known := by
  cases known <;> decide

/-- **Where the reader ends, from any place of the text.**  The induction is on the tokens; what is
known at the place is carried from token to token. -/
theorem partsAfter_scanEnds {w : Text} (hs : w.drop position = s) (h : Scanned w position seen) :
    ScanEnds w position seen (partsAfter seen (tokensFrom position s)) := by
  fun_induction tokensFrom position s generalizing seen with
  | case1 position =>
    refine .parts (faultless_iff.2 fun p fault hoffends => ?_) ?_ (by simp) (by simp)
    · have hp := (List.getElem?_eq_some_iff.1 hoffends.dollar).1
      exact h.clean p (hp.trans_le (List.drop_eq_nil_iff.1 hs)) fault hoffends
    · rw [hs]
      exact .nil
  | case2 position rest hcut =>
    refine .fault ⟨position, .badField (dollar_of_drop hs) fun name kind hfield => ?_, h.clean⟩
    obtain ⟨_, hfound⟩ := (fieldAt_iff hs).1 hfield
    cases hcut.symm.trans hfound
  | case3 position rest name kind tail hcut _ ih =>
    have hfield : FieldAt w position name kind := (fieldAt_iff hs).2 ⟨tail, hcut⟩
    obtain ⟨hname, hkind, rfl, -⟩ := cutField_spec hcut
    rw [partsAfter]
    split
    · rename_i hunknown
      refine .fault ⟨position, .unknownKind hfield fun known hknown => ?_, h.clean⟩
      subst hknown
      cases hunknown.symm.trans known.ofName?_name
    rename_i known hknown
    obtain rfl := kind_name_of_ofName? hknown
    split
    · rename_i hseen
      obtain ⟨earlier, hlt, other, hsame⟩ := (h.names name).1 hseen
      exact .fault ⟨position, .duplicateField hfield hlt hsame, h.clean⟩
    rename_i hnew
    -- the field is a `$` and its name, a colon and its kind, which hold no other `$`
    have hno : '$' ∉ name ++ ':' :: known.name := by
      intro hmem
      rcases List.mem_append.1 hmem with hmem | hmem
      · exact hname.dollar_not_mem hmem
      · rcases List.mem_cons.1 hmem with heq | hmem
        · exact absurd heq (by decide)
        · exact absurd (hkind.2 _ hmem) (by decide)
    have hs' : w.drop position = '$' :: ((name ++ ':' :: known.name) ++ tail) := by
      rw [hs, List.append_assoc, List.cons_append]
    have hafter : w.drop (position + 1) = (name ++ ':' :: known.name) ++ tail := by
      rw [← List.drop_drop, hs']
      rfl
    have hlength : position + 1 + (name ++ ':' :: known.name).length =
        position + name.length + known.name.length + 2 := by
      rw [List.length_append, List.length_cons]
      omega
    apply ScanEnds.field hs' hno hfield hnew
    rw [hlength]
    apply ih
    · rw [← hlength]
      exact drop_skipped hafter
    · rw [← hlength]
      exact (h.field hfield hnew).skip hafter hno
  | case4 position c rest hdollar hblank _ ih =>
    have hno : '$' ∉ c :: rest.takeWhile isBlank := by
      intro hmem
      rcases List.mem_cons.1 hmem with rfl | hmem
      · exact hdollar rfl
      · exact absurd (List.mem_takeWhile_imp hmem) (by decide)
    have hs' : w.drop position = (c :: rest.takeWhile isBlank) ++ rest.dropWhile isBlank := by
      rw [hs, List.cons_append, List.takeWhile_append_dropWhile]
    have hlength : position + (c :: rest.takeWhile isBlank).length =
        position + 1 + (rest.takeWhile isBlank).length := by
      rw [List.length_cons]
      omega
    apply ScanEnds.plain hs' hno rfl
    rw [hlength]
    apply ih
    · rw [← hlength]
      exact drop_skipped hs'
    · rw [← hlength]
      exact h.skip hs' hno
  | case5 position c rest hdollar _ _ ih =>
    have hno : '$' ∉ [c] := fun hmem => hdollar (List.mem_singleton.1 hmem).symm
    have hs' : w.drop position = [c] ++ rest := hs
    exact ScanEnds.plain hs' hno rfl (ih (drop_skipped hs') (h.skip hs' hno))
  | case6 position c rest hdollar _ _ ih =>
    have hno : '$' ∉ [c] := fun hmem => hdollar (List.mem_singleton.1 hmem).symm
    have hs' : w.drop position = [c] ++ rest := hs
    exact ScanEnds.plain hs' hno rfl (ih (drop_skipped hs') (h.skip hs' hno))

/-! ## Names that are no identifiers -/

/-- **The name that is found not to be an identifier** is the first of those that are none. -/
theorem badNameFrom_name (position : ℕ) (afterLetter : Bool) (parts : List Part) :
    (badNameFrom position afterLetter parts).map Prod.fst =
      (parts.filterMap (·.fieldName?)).find? (fun name => !isIdentifier name) := by
  fun_induction badNameFrom position afterLetter parts with
  | case1 => rfl
  | case2 position afterLetter c rest ih => exact ih
  | case3 position afterLetter rest ih => exact ih
  | case4 position afterLetter c rest ih => exact ih
  | case5 position afterLetter name kind rest hname ih =>
    show _ = List.find? _ (name :: rest.filterMap (·.fieldName?))
    rw [ih, List.find?_cons_of_neg (by simp [hname])]
  | case6 position afterLetter name kind rest hname =>
    show _ = List.find? _ (name :: rest.filterMap (·.fieldName?))
    rw [List.find?_cons_of_pos (by simpa using hname)]
    rfl

/-- The first item with a property, in a list whose items belong to positions that grow, belongs to
the first position of such an item. -/
theorem exists_first {R : ℕ → Text → Prop} {p : Text → Bool} {positions : List ℕ}
    {names : List Text} (h : List.Forall₂ R positions names) (hlt : positions.Pairwise (· < ·))
    (hfind : names.find? p = some name) : ∃ position, R position name ∧
      ∀ earlier ∈ positions, earlier < position → ∃ other, R earlier other ∧ p other = false := by
  induction h with
  | nil => cases hfind
  | @cons first other positions names hfirst _ ih =>
    obtain ⟨hgreater, hlt⟩ := List.pairwise_cons.1 hlt
    cases hp : p other with
    | true =>
      rw [List.find?_cons_of_pos hp] at hfind
      cases hfind
      refine ⟨first, hfirst, fun earlier hmem hless => ?_⟩
      rcases List.mem_cons.1 hmem with rfl | hmem
      · omega
      · have := hgreater earlier hmem
        omega
    | false =>
      rw [List.find?_cons_of_neg (by simp [hp])] at hfind
      obtain ⟨position, hname, hbefore⟩ := ih hlt hfind
      refine ⟨position, hname, fun earlier hmem hless => ?_⟩
      rcases List.mem_cons.1 hmem with rfl | hmem
      · exact ⟨other, hfirst, hp⟩
      · exact hbefore earlier hmem hless

theorem exists_of_mem_left {R : ℕ → Text → Prop} {positions : List ℕ} {names : List Text}
    (h : List.Forall₂ R positions names) (hmem : position ∈ positions) :
    ∃ name ∈ names, R position name := by
  induction h with
  | nil => cases hmem
  | @cons first other positions names hfirst _ ih =>
    rcases List.mem_cons.1 hmem with rfl | hmem
    · exact ⟨other, List.mem_cons_self, hfirst⟩
    · obtain ⟨name, hname, hR⟩ := ih hmem
      exact ⟨name, List.mem_cons_of_mem _ hname, hR⟩

theorem FieldAt.mem_idxsOf (h : FieldAt s position name kind) : position ∈ s.idxsOf '$' := by
  obtain ⟨hlt, hdollar⟩ := List.getElem?_eq_some_iff.1 h.dollar
  rw [List.mem_idxsOf_iff_getElem_pos hlt, hdollar, beq_self_eq_true]

/-- The name of every field is listed. -/
theorem IsFieldList.mem {names : List Text} (h : IsFieldList s names)
    (hfield : FieldAt s position name kind) : name ∈ names := by
  obtain ⟨other, hmem, kind', hother⟩ := exists_of_mem_left h hfield.mem_idxsOf
  obtain ⟨rfl, -⟩ := hfield.unique hother
  exact hmem

/-- The first of the names that is no identifier is that of the leftmost such field. -/
theorem IsFieldList.firstBadName {names : List Text} (h : IsFieldList s names)
    (hfind : names.find? (fun name => !isIdentifier name) = some name) : FirstBadName s name := by
  obtain ⟨position, ⟨kind, hfield⟩, hbefore⟩ := exists_first h List.pairwise_idxsOf hfind
  refine ⟨position, kind, hfield, by simpa using List.find?_some hfind, ?_⟩
  intro earlier hlt other kind' hother
  obtain ⟨_, ⟨_, hsame⟩, hgood⟩ := hbefore earlier hother.mem_idxsOf hlt
  obtain ⟨rfl, -⟩ := hother.unique hsame
  simpa using hgood

/-! ## What the messages tell -/

theorem Fault.head?_message (written : Text) (fault : Fault) : (fault.message written).head? =
    some (match fault with
      | .badField _ => 'B' | .unknownKind _ => 'U' | .duplicateField _ => 'D' | .badName _ _ => 'b') := by
  cases fault <;> rfl

/-- A quoted text between two fixed ones can be told from what comes last. -/
theorem quoted_between_inj {before after last last' : Text}
    (h : before ++ name.quoted ++ after ++ last = before ++ name'.quoted ++ after ++ last') :
    name = name' ∧ last = last' := by
  simp only [List.append_assoc, List.append_cancel_left_eq] at h
  obtain ⟨rfl, hrest⟩ := Text.quoted_selfDelimiting _ _ _ _ h
  exact ⟨rfl, List.append_cancel_left hrest⟩

/-- **The message of a fault names it**, with its position, its kind or its name. -/
theorem Fault.message_injective (written : Text) : Function.Injective (Fault.message written) := by
  intro fault fault' h
  have hhead := congrArg List.head? h
  rw [head?_message, head?_message] at hhead
  cases fault with
  | badField position =>
    cases fault' with
    | badField position' =>
      have hdigits := List.append_cancel_right (List.append_cancel_right h)
      rw [Text.ofNat_injective (List.append_cancel_left hdigits)]
    | unknownKind | duplicateField | badName => simp at hhead
  | unknownKind kind =>
    cases fault' with
    | unknownKind kind' => rw [(quoted_between_inj h).1]
    | badField | duplicateField | badName => simp at hhead
  | duplicateField name =>
    cases fault' with
    | duplicateField name' => rw [(quoted_between_inj h).1]
    | badField | unknownKind | badName => simp at hhead
  | badName name place =>
    cases fault' with
    | badName name' place' =>
      obtain ⟨rfl, hplace⟩ := quoted_between_inj h
      rw [Text.ofNat_injective hplace]
    | badField | unknownKind | duplicateField => simp at hhead

/-! ## What becomes of a written pattern -/

/-- **What becomes of a written pattern**, one of three things: the leftmost fault is reported, or a
name is found not to be an identifier, or there is a pattern. -/
inductive Reads (anchored : Bool) (s : Text) : Except Fault Pattern → Prop
  | fault {fault : Fault} (h : FirstFault s fault) : Reads anchored s (.error fault)
  | badName {name : Text} (place : ℕ) (hclean : Faultless s) (h : FirstBadName s name) :
      Reads anchored s (.error (.badName name place))
  | pattern {parts : List Part} (hclean : Faultless s)
      (hnames : IsFieldList s (parts.filterMap (·.fieldName?)))
      (hnodup : (parts.filterMap (·.fieldName?)).Nodup)
      (hgood : ∀ position name kind, FieldAt s position name kind → isIdentifier name = true) :
      Reads anchored s (.ok ⟨parts, anchored⟩)

theorem read_reads (anchored : Bool) (s : Text) : Reads anchored s (Pattern.read anchored s) := by
  have hends : ScanEnds s 0 [] (partsAfter [] (tokens s)) := by
    apply partsAfter_scanEnds rfl
    constructor <;> simp
  unfold Pattern.read
  generalize partsAfter [] (tokens s) = result at hends
  cases hends with
  | fault h => exact .fault h
  | @parts parts hclean hnames _ hnodup =>
    have hbad := badNameFrom_name (if anchored then "^".length else 0) false parts
    dsimp only
    cases hfound : badNameFrom (if anchored then "^".length else 0) false parts with
    | some found =>
      rw [hfound] at hbad
      exact .badName found.2 hclean (IsFieldList.firstBadName hnames hbad.symm)
    | none =>
      rw [hfound] at hbad
      refine .pattern hclean hnames hnodup fun position name kind hfield => ?_
      simpa using List.find?_eq_none.1 hbad.symm name (IsFieldList.mem hnames hfield)

/-- **There is a pattern** just if no `$` is at fault and all names are identifiers. -/
theorem exists_read_iff (anchored : Bool) (s : Text) :
    (∃ pattern, Pattern.read anchored s = .ok pattern) ↔ Faultless s ∧
      ∀ position name kind, FieldAt s position name kind → isIdentifier name = true := by
  have hreads := read_reads anchored s
  generalize Pattern.read anchored s = result at hreads ⊢
  constructor
  · rintro ⟨pattern, rfl⟩
    cases hreads with
    | pattern hclean _ _ hgood => exact ⟨hclean, hgood⟩
  · rintro ⟨hclean, hgood⟩
    cases hreads with
    | fault h => exact absurd hclean h.not_faultless
    | badName place _ h => exact absurd hgood h.not_all
    | pattern _ _ _ _ => exact ⟨_, rfl⟩

/-- **The leftmost fault is reported** before any name that is no identifier. -/
theorem read_fault_iff (anchored : Bool) (s : Text)
    (hother : ∀ name place, fault ≠ .badName name place) :
    Pattern.read anchored s = .error fault ↔ FirstFault s fault := by
  have hreads := read_reads anchored s
  generalize Pattern.read anchored s = result at hreads ⊢
  constructor
  · rintro rfl
    cases hreads with
    | fault h => exact h
    | badName place _ _ => exact absurd rfl (hother _ _)
  · intro hfirst
    cases hreads with
    | fault h => rw [hfirst.unique h]
    | badName place hclean _ => exact absurd hclean hfirst.not_faultless
    | pattern hclean _ _ _ => exact absurd hclean hfirst.not_faultless

/-- **The first name that is no identifier is reported** if nothing else is at fault. -/
theorem read_badName_iff (anchored : Bool) (s name : Text) :
    (∃ place, Pattern.read anchored s = .error (.badName name place)) ↔
      Faultless s ∧ FirstBadName s name := by
  have hreads := read_reads anchored s
  generalize Pattern.read anchored s = result at hreads ⊢
  constructor
  · rintro ⟨place, rfl⟩
    cases hreads with
    | fault h =>
      obtain ⟨position, hoffends, -⟩ := h
      cases hoffends
    | badName _ hclean h => exact ⟨hclean, h⟩
  · rintro ⟨hclean, hbad⟩
    cases hreads with
    | fault h => exact absurd hclean h.not_faultless
    | badName place _ h => exact ⟨place, by rw [hbad.unique h]⟩
    | pattern _ _ _ hgood => exact absurd hgood hbad.not_all

/-! ## What a pattern reports -/

/-- The names that are reported are those of the fields. -/
theorem reported_names {parts : List Part} {ps : List Text} (h : List.Forall₂ Part.Takes parts ps) :
    (reported parts ps).map Prod.fst = parts.filterMap (·.fieldName?) := by
  induction h with
  | nil => rfl
  | @cons part p parts ps _ _ ih =>
    cases part with
    | letter d => simpa [reported, Part.fieldName?] using ih
    | gap => simpa [reported, Part.fieldName?] using ih
    | mark d => simpa [reported, Part.fieldName?] using ih
    | field name kind => simpa [reported, Part.fieldName?] using ih

/-- **A pattern reports the fields of its text**, each once and in order. -/
theorem match?_names {anchored : Bool} {pattern : Pattern} {line : Text}
    {fields : List (Text × Text)} (hread : Pattern.read anchored s = .ok pattern)
    (h : pattern.match? line = some fields) :
    IsFieldList s (fields.map Prod.fst) ∧ (fields.map Prod.fst).Nodup := by
  have hmark : ∀ d, .mark d ∈ pattern.parts → isBlank d = false :=
    fun d hd => (spells_of_read hread).2.mark_not_blank hd
  obtain ⟨before, ps, hchosen, rfl⟩ := (match?_eq_some_iff hmark).1 h
  rw [reported_names hchosen.decomposes.1]
  have hreads := read_reads anchored s
  rw [hread] at hreads
  cases hreads with
  | pattern _ hnames hnodup _ => exact ⟨hnames, hnodup⟩

/-- **What becomes of a written pattern.**  There is a pattern just if no `$` of the text is at fault
and all names are identifiers.  Else, the leftmost `$` that is at fault is reported: it begins no
field, or else the kind is not known, or else an earlier field has the name.  If there is none, the
first name that is no identifier is.  The message tells which of these it was, and where or of which
name.  The fields that a pattern reports for a line are those of the text, each once and in order. -/
theorem read_outcome (anchored : Bool) (s : Text) :
    ((∃ pattern, Pattern.read anchored s = .ok pattern) ↔ Faultless s ∧
        ∀ position name kind, FieldAt s position name kind → isIdentifier name = true) ∧
      (∀ fault, (∀ name place, fault ≠ .badName name place) →
        (Pattern.read anchored s = .error fault ↔ FirstFault s fault)) ∧
      (∀ name, (∃ place, Pattern.read anchored s = .error (.badName name place)) ↔
        Faultless s ∧ FirstBadName s name) ∧
      Function.Injective (Fault.message s) ∧
      ∀ pattern line fields, Pattern.read anchored s = .ok pattern →
        pattern.match? line = some fields →
          IsFieldList s (fields.map Prod.fst) ∧ (fields.map Prod.fst).Nodup := by
  refine ⟨exists_read_iff anchored s, ?_, read_badName_iff anchored s, Fault.message_injective s, ?_⟩
  · intro fault hother
    exact read_fault_iff anchored s hother
  · intro pattern line fields hread hmatch
    exact match?_names hread hmatch

/-- In `$a:word $a:word` the second `$` is at fault, and a pattern that has no fault reports its two
fields in order. -/
theorem read_outcome_twoFields :
    FirstFault "$a:word $a:word".toList (.duplicateField "a".toList) ∧
      IsFieldList "$word:word is $digit:digit".toList ["word".toList, "digit".toList] := by
  obtain ⟨-, hfaults, -⟩ := read_outcome true "$a:word $a:word".toList
  obtain ⟨-, -, -, -, hfields⟩ := read_outcome true "$word:word is $digit:digit".toList
  constructor
  · have hread : Pattern.read true "$a:word $a:word".toList = .error (.duplicateField "a".toList) := by
      decide +kernel
    refine (hfaults _ ?_).1 hread
    intro name place h
    cases h
  · have hread : Pattern.read true "$word:word is $digit:digit".toList = .ok Form.teach.pattern :=
      eq_ok_of_toOption (by decide +kernel)
    have hmatch : Form.teach.pattern.match? "glob is I".toList =
        some [("word".toList, "glob".toList), ("digit".toList, "I".toList)] := by
      decide +kernel
    exact (hfields _ _ _ hread hmatch).1

/-- Names of word characters are not enough: no `$` of this text is at fault, and it writes no pattern,
for the name holds a number that no identifier may hold. -/
theorem faultless_not_read : Faultless "$a\u00b2:word".toList ∧
    Pattern.read true "$a\u00b2:word".toList = .error (.badName "a\u00b2".toList 5) := by
  have hparts : partsAfter [] (tokens "$a\u00b2:word".toList) =
      .ok [.field "a\u00b2".toList .word] :=
    eq_ok_of_toOption (by decide +kernel)
  have hends : ScanEnds "$a\u00b2:word".toList 0 [] (partsAfter [] (tokens "$a\u00b2:word".toList)) := by
    apply partsAfter_scanEnds rfl
    constructor <;> simp
  rw [hparts] at hends
  cases hends with
  | parts hclean _ _ _ =>
    refine ⟨hclean, ?_⟩
    rw [Pattern.read, hparts]
    decide +kernel

end Tradespeak.Pattern
