import Tradespeak.Text.Basic

/-!
# Tables in order of insertion

* `Table` — values by name, every name once, in the order in which the names were first put in.
* `get?`, `contains`, `insert` — inserting under a present name keeps its place.
* `get?_insert` — after an insertion the new name has the new value and all others what they had.
-/

set_option autoImplicit false

namespace Tradespeak

namespace Table

variable {α : Type}

/-- The entries with a value put under a name, in the place of the entry of that name, or last. -/
def put (name : Text) (value : α) : List (Text × α) → List (Text × α)
  | [] => [(name, value)]
  | (other, old) :: rest =>
    if other = name then (name, value) :: rest else (other, old) :: put name value rest

theorem map_fst_put (name : Text) (value : α) (entries : List (Text × α)) :
    (put name value entries).map Prod.fst =
      if name ∈ entries.map Prod.fst then entries.map Prod.fst
      else entries.map Prod.fst ++ [name] := by
  induction entries with
  | nil => simp [put]
  | cons entry rest ih =>
    obtain ⟨other, old⟩ := entry
    by_cases h : other = name
    · subst h; simp [put]
    · have h' : name ≠ other := fun e => h e.symm
      simp only [put, if_neg h, List.map_cons, ih, List.mem_cons, h', false_or]
      split <;> simp

theorem nodup_put {name : Text} {value : α} {entries : List (Text × α)}
    (h : (entries.map Prod.fst).Nodup) : ((put name value entries).map Prod.fst).Nodup := by
  rw [map_fst_put]
  split
  · exact h
  · rename_i absent
    rw [List.nodup_append]
    refine ⟨h, by simp, ?_⟩
    intro a ha b hb e
    rw [List.mem_singleton] at hb
    subst hb e
    exact absent ha

theorem lookup_put (name other : Text) (value : α) (entries : List (Text × α)) :
    (put name value entries).lookup other =
      if other = name then some value else entries.lookup other := by
  induction entries with
  | nil =>
    rw [put, List.lookup_cons]
    cases e : other == name <;> simp_all
  | cons entry rest ih =>
    obtain ⟨first, old⟩ := entry
    by_cases h : first = name
    · subst h
      rw [put, if_pos rfl, List.lookup_cons, List.lookup_cons]
      cases e : other == first <;> simp_all
    · rw [put, if_neg h, List.lookup_cons, List.lookup_cons, ih]
      cases e : other == first <;> simp_all

end Table

/-- Values by name, in order of insertion, every name once. -/
structure Table (α : Type) where
  entries : List (Text × α)
  nodup : (entries.map Prod.fst).Nodup
  deriving DecidableEq

namespace Table

variable {α : Type}

/-- The table without entries. -/
def empty : Table α := ⟨[], List.nodup_nil⟩

/-- The number of entries. -/
def size (table : Table α) : Nat := table.entries.length

/-- The value under a name. -/
def get? (table : Table α) (name : Text) : Option α := table.entries.lookup name

/-- There is an entry under the name. -/
def contains (table : Table α) (name : Text) : Bool := (table.get? name).isSome

/-- The table with the value under the name, all other entries as they were. -/
def insert (table : Table α) (name : Text) (value : α) : Table α :=
  ⟨put name value table.entries, nodup_put table.nodup⟩

/-- The table of the entries, inserted in order. -/
def ofList (entries : List (Text × α)) : Table α :=
  entries.foldl (fun table entry => table.insert entry.1 entry.2) empty

@[simp] theorem get?_empty (name : Text) : (empty : Table α).get? name = none := rfl

theorem get?_insert (table : Table α) (name other : Text) (value : α) :
    (table.insert name value).get? other =
      if other = name then some value else table.get? other :=
  lookup_put name other value table.entries

end Table

end Tradespeak
