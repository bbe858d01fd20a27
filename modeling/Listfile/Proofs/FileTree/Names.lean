import Listfile.Proofs.FileTree.Entries
import Listfile.Proofs.Lists
import Listfile.Proofs.OrderedUnion

set_option autoImplicit false

/-! The names in a directory after one location was set. The names of other locations stay, and stay in their order:
sorting keeps what it is given apart from the order, so leaving names out before or after it is the same. -/

namespace Listfile

variable {α : Type}

theorem filter_orderedUnion [DecidableEq α] (wanted : α → Bool) (items additions : List α) :
    (orderedUnion items additions).filter wanted =
      orderedUnion (items.filter wanted) (additions.filter wanted) := by
  induction additions generalizing items with
  | nil => rfl
  | cons addition additions ih =>
      rw [orderedUnion_cons, ih]
      cases isWanted : wanted addition with
      | false =>
          rw [List.filter_cons_of_neg (by simp [isWanted]), insertNew]
          split
          · rfl
          · rw [List.filter_append, List.filter_singleton, isWanted]
            simp
      | true =>
          rw [List.filter_cons_of_pos isWanted, orderedUnion_cons, insertNew, insertNew]
          by_cases present : addition ∈ items
          · rw [if_pos present, if_pos (List.mem_filter.2 ⟨present, isWanted⟩)]
          · rw [if_neg present, if_neg fun kept => present (List.mem_filter.1 kept).1, List.filter_append,
              List.filter_singleton, isWanted]
            simp

namespace FileTree

theorem nameBefore_trans (first second third : Name) :
    nameBefore first second → nameBefore second third → nameBefore first third := by
  simp only [nameBefore, decide_eq_true_eq]
  exact List.le_trans

theorem nameBefore_total (first second : Name) : nameBefore first second || nameBefore second first := by
  rw [nameBefore, nameBefore, ← Bool.decide_or]
  exact decide_eq_true (Std.Total.total first.bytes second.bytes)

theorem nameIn?_eq_some_iff (directory location : Location) (name : Name) :
    nameIn? directory location = some name ↔ location = directory ++ [name] := by
  rw [nameIn?, eq_comm (a := location), ← List.isPrefixOf?_eq_some_iff_append_eq]
  split
  · rename_i found
    simp [found]
  · rename_i other
    exact ⟨nofun, fun found => absurd found (other name)⟩

theorem map_fst_setEntry (place : Location) (entry : Entry) (entries : List (Location × Entry)) :
    (setEntry place entry entries).map Prod.fst =
      if place ∈ entries.map Prod.fst then entries.map Prod.fst else entries.map Prod.fst ++ [place] := by
  induction entries with
  | nil => rfl
  | cons first entries ih =>
      obtain ⟨other, previous⟩ := first
      by_cases same : other = place
      · simp [setEntry, same]
      · have apart : place ≠ other := fun equal => same equal.symm
        simp only [setEntry, if_neg same, List.map_cons, ih, List.mem_cons, apart, false_or]
        split <;> rfl

theorem names_eq (tree : FileTree) (directory : Location) : tree.names directory =
    (orderedUnion [] ((tree.entries.map Prod.fst).filterMap (nameIn? directory))).mergeSort nameBefore := by
  rw [names, List.filterMap_map]
  rfl

/-- A directory keeps the names of all locations but the one that was set. -/
theorem filter_names_set (tree : FileTree) (place : Location) (entry : Entry) (directory : Location) :
    ((tree.set place entry).names directory).filter (fun name => directory ++ [name] ≠ place) =
      (tree.names directory).filter (fun name => directory ++ [name] ≠ place) := by
  simp only [names_eq, filter_mergeSort nameBefore_trans nameBefore_total, filter_orderedUnion]
  rw [set, map_fst_setEntry]
  split
  · rfl
  · rw [List.filterMap_append, List.filter_append]
    have unnamed : ([place].filterMap (nameIn? directory)).filter (fun name => directory ++ [name] ≠ place) = [] := by
      rw [List.filter_eq_nil_iff]
      intro name member
      obtain ⟨location, inSingleton, named⟩ := List.mem_filterMap.1 member
      rw [decide_eq_true_eq, ← (nameIn?_eq_some_iff _ _ _).1 named]
      exact fun apart => apart (List.mem_singleton.1 inSingleton)
    rw [unnamed, List.append_nil]

end FileTree

end Listfile
