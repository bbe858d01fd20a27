import Listfile.FileTree.Edit

set_option autoImplicit false

/-! What a tree holds after one location was set. The later of two settings wins, and every other location holds what
it held. A place is free for a file if nothing stands there, or a file. -/

namespace Listfile.FileTree

variable {tree : FileTree} {place : Location}

theorem lookup_setEntry_self (place : Location) (entry : Entry) (entries : List (Location × Entry)) :
    (setEntry place entry entries).lookup place = some entry := by
  induction entries with
  | nil => simp [setEntry]
  | cons first entries ih =>
      obtain ⟨other, previous⟩ := first
      rw [setEntry]
      split
      · simp
      · rename_i apart
        have different : (place == other) = false := beq_eq_false_iff_ne.2 fun same => apart same.symm
        rw [List.lookup_cons, different]
        exact ih

theorem lookup_setEntry_of_ne {other : Location} (apart : other ≠ place) (entry : Entry)
    (entries : List (Location × Entry)) :
    (setEntry place entry entries).lookup other = entries.lookup other := by
  have different : (other == place) = false := beq_eq_false_iff_ne.2 apart
  induction entries with
  | nil => simp [setEntry, List.lookup_cons, different]
  | cons first entries ih =>
      obtain ⟨location, previous⟩ := first
      rw [setEntry]
      split
      · rename_i same
        rw [same, List.lookup_cons, List.lookup_cons, different]
      · rw [List.lookup_cons, List.lookup_cons, ih]

theorem setEntry_setEntry (place : Location) (earlier later : Entry) (entries : List (Location × Entry)) :
    setEntry place later (setEntry place earlier entries) = setEntry place later entries := by
  induction entries with
  | nil => simp [setEntry]
  | cons first entries ih =>
      obtain ⟨location, previous⟩ := first
      by_cases same : location = place
      · simp [setEntry, same]
      · simp [setEntry, same, ih]

theorem setEntry_eq_self {entry : Entry} {entries : List (Location × Entry)}
    (already : entries.lookup place = some entry) : setEntry place entry entries = entries := by
  induction entries with
  | nil => cases already
  | cons first entries ih =>
      obtain ⟨other, previous⟩ := first
      rw [setEntry]
      split
      · rename_i same
        rw [same, List.lookup_cons, beq_self_eq_true] at already
        rw [same, Option.some.inj already]
      · rename_i apart
        have different : (place == other) = false := beq_eq_false_iff_ne.2 fun same => apart same.symm
        rw [List.lookup_cons, different] at already
        rw [ih already]

@[simp] theorem workingDirectory_set (tree : FileTree) (place : Location) (entry : Entry) :
    (tree.set place entry).workingDirectory = tree.workingDirectory := rfl

@[simp] theorem set_set (tree : FileTree) (place : Location) (earlier later : Entry) :
    (tree.set place earlier).set place later = tree.set place later := by
  rw [set, set, set, setEntry_setEntry]

theorem entryAt_set_self (inner : place ≠ []) (entry : Entry) : (tree.set place entry).entryAt place = some entry := by
  rw [entryAt, if_neg inner]
  exact lookup_setEntry_self place entry tree.entries

theorem entryAt_set_of_ne {other : Location} (apart : other ≠ place) (entry : Entry) :
    (tree.set place entry).entryAt other = tree.entryAt other := by
  rw [entryAt, entryAt]
  split
  · rfl
  · exact lookup_setEntry_of_ne apart entry tree.entries

theorem set_eq_self {entry : Entry} (inner : place ≠ []) (already : tree.entryAt place = some entry) :
    tree.set place entry = tree := by
  rw [entryAt, if_neg inner] at already
  rw [set, setEntry_eq_self already]

def FreeForFile (tree : FileTree) (place : Location) : Prop :=
  tree.entryAt place = none ∨ ∃ content, tree.entryAt place = some (.file content)

namespace FreeForFile

theorem not_directory (free : tree.FreeForFile place) : tree.entryAt place ≠ some .directory := by
  rcases free with absent | ⟨content, isFile⟩
  · rw [absent]
    exact nofun
  · rw [isFile]
    exact nofun

theorem ne_nil (free : tree.FreeForFile place) : place ≠ [] :=
  fun atRoot => free.not_directory (by rw [atRoot]; rfl)

theorem entryAt_set (free : tree.FreeForFile place) (entry : Entry) :
    (tree.set place entry).entryAt place = some entry :=
  entryAt_set_self free.ne_nil entry

theorem set_file (free : tree.FreeForFile place) (content : Content) :
    (tree.set place (.file content)).FreeForFile place :=
  Or.inr ⟨content, free.entryAt_set _⟩

end FreeForFile

/-- A file changes nothing about which locations are directories. -/
theorem entryAt_set_directory_iff (free : tree.FreeForFile place) (content : Content) (location : Location) :
    (tree.set place (.file content)).entryAt location = some .directory ↔
      tree.entryAt location = some .directory := by
  by_cases same : location = place
  · rw [same, free.entryAt_set]
    exact ⟨nofun, fun isDirectory => absurd isDirectory free.not_directory⟩
  · rw [entryAt_set_of_ne same]

end Listfile.FileTree
