import Mathlib.Data.List.Basic
import Mathlib.Data.List.Induction
import Tradespeak.FrontEnd.Arguments

/-!
# Command lines by groups

* `Role`, `Role.options` — what a file is named for, and the options that are followed by such a name.
* `Group` — arguments that belong together: an option and the name after it, whatever this looks like,
  or an input, which does not look like an option.
* `ofGroups` — the arguments that groups make: the last name for each role.
* `readAfter_group`, `read_groups` — groups of which at most one is an input are read one by one.
* `Breaks` — the ways in which what comes after groups breaks the rules.
* `breaks_or_grows`, `exists_cut` — it does so or goes on with a group, unless there is nothing left.
  So every command line can be cut into groups up to its end or to a break.
* `Breaks.longest` — no groups reach beyond a break, so that it is the leftmost one.
* `Reordered.same_arguments` — groups may change places if those of each option stay in order.

Principal result: `read_by_groups`.
-/

set_option autoImplicit false

namespace Tradespeak.Arguments

/-! ## Groups -/

/-- What a file is named for. -/
inductive Role where
  | input
  | output
  | log
  deriving DecidableEq, Repr

/-- The options that are followed by a name for the role. An input is named without one. -/
def Role.options : Role → List Text
  | input => []
  | output => ["-o".toList, "--output".toList]
  | log => ["-log".toList, "--log".toList]

/-- Arguments that belong together. -/
inductive Group where
  /-- An option and the name after it, whatever this looks like. -/
  | named (role : Role) (option name : Text) (hoption : option ∈ role.options)
  /-- An argument that does not look like an option. -/
  | input (name : Text) (hname : name.head? ≠ some '-')
  deriving DecidableEq

namespace Group

/-- What the group names a file for. -/
def role : Group → Role
  | named role _ _ _ => role
  | input _ _ => .input

/-- The name in the group. -/
def name : Group → Text
  | named _ _ name _ => name
  | input name _ => name

/-- The arguments in the group. -/
def spelling : Group → List Text
  | named _ option name _ => [option, name]
  | input name _ => [name]

end Group

/-- The groups for a role, in order. -/
def ofRole (role : Role) (groups : List Group) : List Group :=
  groups.filter fun group => group.role = role

/-- The name that is given last for a role. -/
def lastName (role : Role) (groups : List Group) : Option Text :=
  (ofRole role groups).getLast?.map Group.name

/-- The arguments that groups make. -/
def ofGroups (groups : List Group) : Arguments :=
  ⟨lastName .input groups, lastName .output groups, lastName .log groups⟩

/-- There is no second input. -/
def AtMostOneInput (groups : List Group) : Prop := (ofRole .input groups).length ≤ 1

instance (groups : List Group) : Decidable (AtMostOneInput groups) :=
  inferInstanceAs (Decidable ((ofRole .input groups).length ≤ 1))

/-- What comes after groups breaks the rules: an option lacks its name, an option is not known, or there
is another input. -/
inductive Breaks (groups : List Group) : List Text → UsageError → Prop
  | missingName {role : Role} {option : Text} (hoption : option ∈ role.options) :
      Breaks groups [option] (.missingName option)
  | unknownOption {argument : Text} {rest : List Text} (hdash : argument.head? = some '-')
      (hunknown : ∀ role : Role, argument ∉ role.options) :
      Breaks groups (argument :: rest) (.unknownOption argument)
  | unexpected {argument : Text} {rest : List Text} (hplain : argument.head? ≠ some '-')
      (hinput : ∃ group ∈ groups, group.role = .input) :
      Breaks groups (argument :: rest) (.unexpected argument)

/-- The groups change places, but those of each option stay in order. -/
structure Reordered (groups later : List Group) : Prop where
  perm : groups.Perm later
  inOrder : ∀ role ≠ .input, ofRole role groups = ofRole role later

variable {role : Role} {argument option name : Text} {rest after commandLine : List Text}
  {arguments : Arguments} {error : UsageError} {group first second : Group}
  {groups more later : List Group}

/-- Every option looks like one. -/
theorem head?_option (h : option ∈ role.options) : option.head? = some '-' := by
  have hall : ∀ option ∈ role.options, option.head? = some '-' := by
    cases role <;> decide
  exact hall option h

/-- An option is an option for one role only. -/
theorem role_unique {other : Role} (h : option ∈ role.options) (hother : option ∈ other.options) :
    role = other := by
  have hall : ∀ option ∈ role.options, option ∈ other.options → role = other := by
    cases role <;> cases other <;> decide
  exact hall option h hother

/-- Where a group ends, and which one it is, can be read off what begins with it. -/
theorem spelling_append_inj (h : first.spelling ++ rest = second.spelling ++ after) :
    first = second ∧ rest = after := by
  cases first with
  | named role option name hoption =>
    cases second with
    | named other option' name' hoption' =>
      obtain ⟨rfl, htail⟩ := List.cons.inj h
      obtain ⟨rfl, hrest⟩ := List.cons.inj htail
      obtain rfl := role_unique hoption hoption'
      exact ⟨rfl, hrest⟩
    | input name' hname' =>
      obtain ⟨rfl, -⟩ := List.cons.inj h
      exact absurd (head?_option hoption) hname'
  | input name hname =>
    cases second with
    | named other option' name' hoption' =>
      obtain ⟨rfl, -⟩ := List.cons.inj h
      exact absurd (head?_option hoption') hname
    | input name' hname' =>
      obtain ⟨rfl, hrest⟩ := List.cons.inj h
      exact ⟨rfl, hrest⟩

theorem ofRole_append (role : Role) (groups : List Group) (group : Group) :
    ofRole role (groups ++ [group]) =
      if group.role = role then ofRole role groups ++ [group] else ofRole role groups := by
  unfold ofRole
  rw [List.filter_append]
  split
  · rename_i hrole
    simp [hrole]
  · rename_i hrole
    simp [hrole]

theorem ofRole_eq_nil_iff : ofRole role groups = [] ↔ ¬ ∃ group ∈ groups, group.role = role := by
  simp [ofRole]

/-- Another group may come if it is no input, or the first one. -/
theorem atMostOneInput_append_iff : AtMostOneInput (groups ++ [group]) ↔
    AtMostOneInput groups ∧ (group.role = .input → ¬ ∃ earlier ∈ groups, earlier.role = .input) := by
  rw [← ofRole_eq_nil_iff, ← List.length_eq_zero_iff]
  unfold AtMostOneInput
  rw [ofRole_append]
  split
  · rename_i hrole
    rw [List.length_append, List.length_singleton]
    constructor
    · intro hlength
      exact ⟨by omega, fun _ => by omega⟩
    · rintro ⟨-, hzero⟩
      have := hzero hrole
      omega
  · rename_i hrole
    exact ⟨fun hlength => ⟨hlength, fun h => absurd h hrole⟩, And.left⟩

theorem ofGroups_append (groups : List Group) (group : Group) :
    ofGroups (groups ++ [group]) =
      match group.role with
      | .input => { ofGroups groups with input := some group.name }
      | .output => { ofGroups groups with output := some group.name }
      | .log => { ofGroups groups with log := some group.name } := by
  have hlast : ∀ role, lastName role (groups ++ [group]) =
      if group.role = role then some group.name else lastName role groups := by
    intro role
    unfold lastName
    rw [ofRole_append]
    split
    · rw [List.getLast?_concat]
      rfl
    · rfl
  cases hrole : group.role <;> simp [ofGroups, hlast, hrole]

theorem input_isSome_iff :
    (ofGroups groups).input.isSome = true ↔ ∃ group ∈ groups, group.role = .input := by
  simp [ofGroups, lastName, ofRole]

/-! ## Reading groups -/

/-- What an option is for is what it is read for. -/
theorem option_reads (h : option ∈ role.options) :
    isOutputOption option = (role == .output) ∧ isLogOption option = (role == .log) := by
  have hall : ∀ option ∈ role.options,
      isOutputOption option = (role == .output) ∧ isLogOption option = (role == .log) := by
    cases role <;> decide
  exact hall option h

theorem takesName_iff : (isOutputOption argument || isLogOption argument) = true ↔
    ∃ role : Role, argument ∈ role.options := by
  constructor
  · intro h
    rcases Bool.or_eq_true_iff.1 h with h | h
    · exact ⟨.output, by simpa [isOutputOption, Role.options] using h⟩
    · exact ⟨.log, by simpa [isLogOption, Role.options] using h⟩
  · rintro ⟨role, h⟩
    obtain ⟨houtput, hlog⟩ := option_reads h
    rw [houtput, hlog]
    cases role with
    | input => cases h
    | output => rfl
    | log => rfl

theorem unknown_reads (h : ∀ role : Role, argument ∉ role.options) :
    isOutputOption argument = false ∧ isLogOption argument = false := by
  rw [← Bool.or_eq_false_iff, ← Bool.not_eq_true, takesName_iff]
  rintro ⟨role, hrole⟩
  exact h role hrole

theorem plain_reads (h : argument.head? ≠ some '-') :
    isOutputOption argument = false ∧ isLogOption argument = false :=
  unknown_reads fun _ hoption => h (head?_option hoption)

/-- An option for a file that comes last lacks its name. -/
theorem readAfter_last (given : Arguments)
    (h : (isOutputOption argument || isLogOption argument) = true) :
    readAfter given [argument] = .error (.missingName argument) := by
  rw [readAfter, if_pos h]

theorem readAfter_output (given : Arguments) (houtput : isOutputOption argument = true) :
    readAfter given (argument :: name :: rest) =
      readAfter { given with output := some name } rest := by
  rw [readAfter, houtput]
  rfl

theorem readAfter_log (given : Arguments) (houtput : isOutputOption argument = false)
    (hlog : isLogOption argument = true) :
    readAfter given (argument :: name :: rest) = readAfter { given with log := some name } rest := by
  rw [readAfter, houtput, hlog]
  rfl

/-- An argument that is no option for a file is the input, if it can be. -/
theorem readAfter_other (given : Arguments) (houtput : isOutputOption argument = false)
    (hlog : isLogOption argument = false) (rest : List Text) :
    readAfter given (argument :: rest) =
      if argument.head? = some '-' then .error (.unknownOption argument)
      else if given.input.isSome then .error (.unexpected argument)
      else readAfter { given with input := some argument } rest := by
  rw [readAfter.eq_def]
  dsimp only
  rw [houtput, hlog]
  rfl

/-- A group is read at once. -/
theorem readAfter_group (h : AtMostOneInput (groups ++ [group])) (rest : List Text) :
    readAfter (ofGroups groups) (group.spelling ++ rest) =
      readAfter (ofGroups (groups ++ [group])) rest := by
  rw [ofGroups_append]
  cases group with
  | named role option name hoption =>
    obtain ⟨houtput, hlog⟩ := option_reads hoption
    cases role with
    | input => cases hoption
    | output => exact readAfter_output _ houtput
    | log => exact readAfter_log _ houtput hlog
  | input name hname =>
    obtain ⟨houtput, hlog⟩ := plain_reads hname
    have hfirst := (atMostOneInput_append_iff.1 h).2 rfl
    rw [← input_isSome_iff] at hfirst
    show readAfter _ (name :: rest) = _
    rw [readAfter_other _ houtput hlog, if_neg hname, if_neg hfirst]
    rfl

/-- Groups of which at most one is an input are read one by one. -/
theorem read_groups (h : AtMostOneInput groups) (rest : List Text) :
    read (groups.flatMap Group.spelling ++ rest) = readAfter (ofGroups groups) rest := by
  induction groups using List.reverseRecOn generalizing rest with
  | nil => rfl
  | append_singleton groups group ih =>
    have hearlier := (atMostOneInput_append_iff.1 h).1
    rw [List.flatMap_append, List.flatMap_singleton, List.append_assoc, ih hearlier,
      readAfter_group h]

/-- What breaks the rules is reported. -/
theorem Breaks.reported (h : Breaks groups rest error) :
    readAfter (ofGroups groups) rest = .error error := by
  cases h with
  | missingName hoption => exact readAfter_last _ (takesName_iff.2 ⟨_, hoption⟩)
  | @unknownOption argument rest hdash hunknown =>
    obtain ⟨houtput, hlog⟩ := unknown_reads hunknown
    rw [readAfter_other _ houtput hlog, if_pos hdash]
  | unexpected hplain hinput =>
    obtain ⟨houtput, hlog⟩ := plain_reads hplain
    rw [readAfter_other _ houtput hlog, if_neg hplain, if_pos (input_isSome_iff.2 hinput)]

/-! ## Cutting a command line -/

/-- What comes after groups breaks the rules or goes on with a group, unless there is nothing left. -/
theorem breaks_or_grows (h : AtMostOneInput groups) (rest : List Text) :
    rest = [] ∨ (∃ error, Breaks groups rest error) ∨
      ∃ group after, rest = group.spelling ++ after ∧ AtMostOneInput (groups ++ [group]) := by
  cases rest with
  | nil => exact .inl rfl
  | cons argument rest =>
    right
    by_cases hoption : ∃ role : Role, argument ∈ role.options
    · obtain ⟨role, hoption⟩ := hoption
      cases rest with
      | nil => exact .inl ⟨_, .missingName hoption⟩
      | cons name rest =>
        have hrole : role ≠ .input := by
          rintro rfl
          cases hoption
        refine .inr ⟨.named role argument name hoption, rest, rfl, ?_⟩
        exact atMostOneInput_append_iff.2 ⟨h, fun hinput => absurd hinput hrole⟩
    · by_cases hdash : argument.head? = some '-'
      · exact .inl ⟨_, .unknownOption hdash fun role hrole => hoption ⟨role, hrole⟩⟩
      · by_cases hinput : ∃ group ∈ groups, group.role = .input
        · exact .inl ⟨_, .unexpected hdash hinput⟩
        · refine .inr ⟨.input argument hdash, rest, rfl, ?_⟩
          exact atMostOneInput_append_iff.2 ⟨h, fun _ => hinput⟩

theorem spelling_ne_nil (group : Group) : group.spelling ≠ [] := by
  cases group <;> exact List.cons_ne_nil _ _

/-- **Every command line can be cut into groups**, up to its end or to a break. -/
theorem exists_cut (h : AtMostOneInput groups) (rest : List Text) :
    ∃ more after, more.flatMap Group.spelling ++ after = groups.flatMap Group.spelling ++ rest ∧
      AtMostOneInput more ∧ (after = [] ∨ ∃ error, Breaks more after error) := by
  -- A group takes one argument or two, so the induction is on how many are left.
  induction hlength : rest.length using Nat.strongRecOn generalizing groups rest with
  | _ length ih =>
    obtain hend | hbreaks | ⟨group, after, rfl, hgrows⟩ := breaks_or_grows h rest
    · exact ⟨groups, rest, rfl, h, .inl hend⟩
    · exact ⟨groups, rest, rfl, h, .inr hbreaks⟩
    · have hshorter : after.length < length := by
        rw [← hlength, List.length_append]
        have := List.length_pos_iff.2 (spelling_ne_nil group)
        omega
      obtain ⟨more, last, hjoined, hmore⟩ := ih _ hshorter hgrows after rfl
      refine ⟨more, last, ?_, hmore⟩
      rw [hjoined, List.flatMap_append, List.flatMap_singleton, List.append_assoc]

/-- No group comes where the rules are broken. -/
theorem Breaks.not_group (h : Breaks groups (group.spelling ++ rest) error) :
    ¬ AtMostOneInput (groups ++ [group]) := by
  intro hgrows
  cases group with
  | named role option name hoption =>
    cases h with
    | unknownOption hdash hunknown => exact hunknown role hoption
    | unexpected hplain hinput => exact hplain (head?_option hoption)
  | input name hname =>
    cases h with
    | missingName hoption => exact hname (head?_option hoption)
    | unknownOption hdash hunknown => exact hname hdash
    | unexpected hplain hinput => exact (atMostOneInput_append_iff.1 hgrows).2 rfl hinput

/-- **No groups reach beyond a break.** -/
theorem Breaks.longest (hbreaks : Breaks groups rest error) (hmore : AtMostOneInput more)
    (hjoined : more.flatMap Group.spelling ++ after = groups.flatMap Group.spelling ++ rest) :
    more <+: groups := by
  -- The groups are taken off the end: those before the last one are among `groups` already.
  induction more using List.reverseRecOn generalizing after with
  | nil => exact List.nil_prefix
  | append_singleton more group ih =>
    rw [List.flatMap_append, List.flatMap_singleton, List.append_assoc] at hjoined
    obtain ⟨tail, rfl⟩ := ih (atMostOneInput_append_iff.1 hmore).1 hjoined
    rw [List.flatMap_append, List.append_assoc] at hjoined
    have hnext := List.append_cancel_left hjoined
    cases tail with
    | nil =>
      rw [List.append_nil] at hbreaks
      rw [List.flatMap_nil, List.nil_append] at hnext
      exact absurd hmore (hnext ▸ hbreaks).not_group
    | cons first tail =>
      rw [List.flatMap_cons, List.append_assoc] at hnext
      obtain ⟨rfl, -⟩ := spelling_append_inj hnext
      exact ⟨tail, by rw [List.append_assoc, List.singleton_append]⟩

/-- Groups can be told from the arguments that they hold. -/
theorem flatMap_spelling_injective :
    Function.Injective (List.flatMap Group.spelling) := by
  intro groups later h
  induction groups generalizing later with
  | nil =>
    cases later with
    | nil => rfl
    | cons group later => simp [spelling_ne_nil] at h
  | cons group groups ih =>
    cases later with
    | nil => simp [spelling_ne_nil] at h
    | cons other later =>
      rw [List.flatMap_cons, List.flatMap_cons] at h
      obtain ⟨rfl, hrest⟩ := spelling_append_inj h
      rw [ih hrest]

/-! ## What is read -/

theorem read_of_groups (h : AtMostOneInput groups) :
    read (groups.flatMap Group.spelling) = .ok (ofGroups groups) := by
  have hread := read_groups h []
  rwa [List.append_nil] at hread

theorem read_of_breaks (h : AtMostOneInput groups) (hbreaks : Breaks groups rest error) :
    read (groups.flatMap Group.spelling ++ rest) = .error error := by
  rw [read_groups h, hbreaks.reported]

/-- A command line is made of groups, or there is a break in it. -/
theorem groups_or_break (commandLine : List Text) :
    (∃ groups, groups.flatMap Group.spelling = commandLine ∧ AtMostOneInput groups) ∨
      ∃ groups rest error, groups.flatMap Group.spelling ++ rest = commandLine ∧
        AtMostOneInput groups ∧ Breaks groups rest error := by
  have hnone : AtMostOneInput [] := by decide
  obtain ⟨groups, rest, hjoined, hgroups, hends⟩ := exists_cut hnone commandLine
  rw [List.flatMap_nil, List.nil_append] at hjoined
  obtain rfl | ⟨error, hbreaks⟩ := hends
  · rw [List.append_nil] at hjoined
    exact .inl ⟨groups, hjoined, hgroups⟩
  · exact .inr ⟨groups, rest, error, hjoined, hgroups, hbreaks⟩

/-- There are arguments just if the command line is made of groups, at most one of them an input. -/
theorem read_eq_ok_iff : read commandLine = .ok arguments ↔
    ∃ groups, groups.flatMap Group.spelling = commandLine ∧ AtMostOneInput groups ∧
      ofGroups groups = arguments := by
  constructor
  · intro hread
    obtain ⟨groups, rfl, hgroups⟩ | ⟨groups, rest, error, rfl, hgroups, hbreaks⟩ :=
      groups_or_break commandLine
    · rw [read_of_groups hgroups] at hread
      exact ⟨groups, rfl, hgroups, Except.ok.inj hread⟩
    · rw [read_of_breaks hgroups hbreaks] at hread
      cases hread
  · rintro ⟨groups, rfl, hgroups, rfl⟩
    exact read_of_groups hgroups

/-- There is an error just if there is a break, and then it is that of the leftmost break. -/
theorem read_eq_error_iff : read commandLine = .error error ↔
    ∃ groups rest, groups.flatMap Group.spelling ++ rest = commandLine ∧ AtMostOneInput groups ∧
      Breaks groups rest error ∧
      ∀ more after, more.flatMap Group.spelling ++ after = commandLine → AtMostOneInput more →
        more <+: groups := by
  constructor
  · intro hread
    obtain ⟨groups, rfl, hgroups⟩ | ⟨groups, rest, found, rfl, hgroups, hbreaks⟩ :=
      groups_or_break commandLine
    · rw [read_of_groups hgroups] at hread
      cases hread
    · rw [read_of_breaks hgroups hbreaks] at hread
      obtain rfl := Except.error.inj hread
      refine ⟨groups, rest, rfl, hgroups, hbreaks, ?_⟩
      intro more after hjoined hmore
      exact hbreaks.longest hmore hjoined
  · rintro ⟨groups, rest, rfl, hgroups, hbreaks, -⟩
    exact read_of_breaks hgroups hbreaks

/-! ## Groups in another order -/

theorem Reordered.symm (h : Reordered groups later) : Reordered later groups where
  perm := h.perm.symm
  inOrder := fun role hrole => (h.inOrder role hrole).symm

/-- A single input cannot change places with another one. -/
theorem Reordered.ofRole_eq (h : Reordered groups later) (hgroups : AtMostOneInput groups)
    (role : Role) : ofRole role groups = ofRole role later := by
  by_cases hrole : role = .input
  · subst hrole
    have hperm : (ofRole .input groups).Perm (ofRole .input later) := h.perm.filter _
    unfold AtMostOneInput at hgroups
    match hinputs : ofRole .input groups, hgroups with
    | [], _ =>
      rw [hinputs] at hperm
      exact hperm.nil_eq
    | [input], _ =>
      rw [hinputs] at hperm
      exact hperm.singleton_eq
  · exact h.inOrder role hrole

theorem Reordered.same_arguments (h : Reordered groups later)
    (hread : read (groups.flatMap Group.spelling) = .ok arguments) :
    read (later.flatMap Group.spelling) = .ok arguments := by
  obtain ⟨cut, hjoined, hcut, rfl⟩ := read_eq_ok_iff.1 hread
  obtain rfl := flatMap_spelling_injective hjoined
  have hsame := h.ofRole_eq hcut
  refine read_eq_ok_iff.2 ⟨later, rfl, ?_, ?_⟩
  · unfold AtMostOneInput
    rwa [← hsame]
  · simp only [ofGroups, lastName, hsame]

/-- **Arguments are read by groups**: an option with whatever comes after it, or an input, which does not
look like an option.  There are arguments just if the command line is made of groups of which at most one
is an input; these are the input, if there is one, and the last name given for the output and the last one
for the log.  Else, what breaks the rules first is reported: an option that lacks its name, an option that
is not known, or another input.  All groups before it keep the rules, and no others that do reach further.
Groups may change places without an effect, if those of each option stay in order. -/
theorem read_by_groups :
    (∀ commandLine arguments, read commandLine = .ok arguments ↔
      ∃ groups, groups.flatMap Group.spelling = commandLine ∧ AtMostOneInput groups ∧
        ofGroups groups = arguments) ∧
    (∀ commandLine error, read commandLine = .error error ↔
      ∃ groups rest, groups.flatMap Group.spelling ++ rest = commandLine ∧ AtMostOneInput groups ∧
        Breaks groups rest error ∧
        ∀ more after, more.flatMap Group.spelling ++ after = commandLine → AtMostOneInput more →
          more <+: groups) ∧
    ∀ groups later, Reordered groups later → ∀ arguments,
      (read (groups.flatMap Group.spelling) = .ok arguments ↔
        read (later.flatMap Group.spelling) = .ok arguments) := by
  refine ⟨fun commandLine arguments => read_eq_ok_iff, fun commandLine error => read_eq_error_iff, ?_⟩
  intro groups later hreordered arguments
  exact ⟨hreordered.same_arguments, hreordered.symm.same_arguments⟩

/-- Groups with names that look like options, an input without a character, and an output that is named
twice. -/
def craftyGroups : List Group :=
  [.named .output "-o".toList "-log".toList (by decide), .input [] (by decide),
    .named .log "-log".toList "-o".toList (by decide),
    .named .output "--output".toList "-".toList (by decide)]

/-- The same groups with the log first and the input last. -/
def craftyLater : List Group :=
  [.named .log "-log".toList "-o".toList (by decide),
    .named .output "-o".toList "-log".toList (by decide),
    .named .output "--output".toList "-".toList (by decide), .input [] (by decide)]

/-- What comes after an option is its name, whatever it looks like, and the output named last counts. -/
theorem read_by_groups_crafty :
    Reordered craftyGroups craftyLater ∧
      read ["-o".toList, "-log".toList, [], "-log".toList, "-o".toList, "--output".toList,
        "-".toList] = .ok ⟨some [], some "-".toList, some "-o".toList⟩ ∧
      read ["-log".toList, "-o".toList, "-o".toList, "-log".toList, "--output".toList, "-".toList,
        []] = .ok ⟨some [], some "-".toList, some "-o".toList⟩ ∧
      read ["-o".toList, "-log".toList, [], "-log".toList, "-o".toList, "--output".toList,
        "-".toList, "--log".toList] = .error (.missingName "--log".toList) := by
  obtain ⟨harguments, herror, hreordered⟩ := read_by_groups
  have hlater : Reordered craftyGroups craftyLater := by
    refine ⟨by decide, ?_⟩
    intro role hrole
    cases role with
    | input => exact absurd rfl hrole
    | output => decide
    | log => decide
  have hgroups : AtMostOneInput craftyGroups := by decide
  have hread := (harguments _ _).2 ⟨craftyGroups, rfl, hgroups, rfl⟩
  refine ⟨hlater, hread, (hreordered _ _ hlater _).1 hread, (herror _ _).2 ?_⟩
  have hbreaks : Breaks craftyGroups ["--log".toList] (.missingName "--log".toList) :=
    .missingName (show "--log".toList ∈ Role.log.options by decide)
  refine ⟨craftyGroups, _, rfl, hgroups, hbreaks, ?_⟩
  intro more after hjoined hmore
  exact hbreaks.longest hmore hjoined

end Tradespeak.Arguments
