import Listfile.Proofs.FileTree.Names
import Listfile.Proofs.Path.Spelling
import Mathlib.Data.List.Induction

set_option autoImplicit false

/-! Trees as a file system holds them: every entry lies in a directory, and every name can stand between two slashes and
was read from its bytes. In such a tree the bytes tell names apart, so the names in a directory come in strict order,
and above whatever lies below a place there are directories only. -/

namespace Listfile

theorem Name.IsProper.bytes_lt {left right : Name} (leftProper : left.IsProper) (rightProper : right.IsProper)
    (apart : left ≠ right) (before : FileTree.nameBefore left right = true) : left.bytes < right.bytes := by
  rw [FileTree.nameBefore, decide_eq_true_eq] at before
  refine Decidable.byContradiction fun notBefore => apart ?_
  have same : left.bytes = right.bytes := List.le_antisymm before (List.not_lt.1 notBefore)
  rw [← leftProper.fromBytes, same, rightProper.fromBytes]

namespace FileTree

variable {tree : FileTree}

/-- Every name is one that an entry of a directory can have, and every entry lies in a directory. -/
structure WellFormed (tree : FileTree) : Prop where
  names : ∀ entry ∈ tree.entries, ∀ name ∈ entry.1, name.IsProper
  parents : ∀ entry ∈ tree.entries, tree.entryAt entry.1.dropLast = some .directory

instance (tree : FileTree) : Decidable tree.WellFormed :=
  decidable_of_iff ((∀ entry ∈ tree.entries, ∀ name ∈ entry.1, name.IsProper) ∧
      ∀ entry ∈ tree.entries, tree.entryAt entry.1.dropLast = some .directory)
    ⟨fun premise => ⟨premise.1, premise.2⟩, fun wellFormed => ⟨wellFormed.names, wellFormed.parents⟩⟩

theorem entryAt_concat_ne_none_iff (tree : FileTree) (place : Location) (name : Name) :
    tree.entryAt (place ++ [name]) ≠ none ↔ place ++ [name] ∈ tree.entries.map Prod.fst := by
  rw [entryAt, if_neg (List.concat_ne_nil name place), Ne, List.lookup_eq_none_iff]
  simp only [bne_iff_ne, not_forall, not_not, List.mem_map]
  constructor
  · intro premise
    obtain ⟨entry, member, same⟩ := premise
    exact ⟨entry, member, same.symm⟩
  · intro premise
    obtain ⟨entry, member, same⟩ := premise
    exact ⟨entry, member, same.symm⟩

theorem mem_entries_of_entryAt {location : Location} (below : location ≠ []) {entry : Entry}
    (found : tree.entryAt location = some entry) : (location, entry) ∈ tree.entries := by
  rw [entryAt, if_neg below] at found
  obtain ⟨before, after, whole, _earlier⟩ := List.lookup_eq_some_iff.1 found
  rw [whole]
  exact List.mem_append_right _ List.mem_cons_self

theorem mem_names_iff (tree : FileTree) (place : Location) (name : Name) :
    name ∈ tree.names place ↔ tree.entryAt (place ++ [name]) ≠ none := by
  rw [entryAt_concat_ne_none_iff, names_eq, List.mem_mergeSort, mem_orderedUnion, List.mem_filterMap]
  simp only [List.not_mem_nil, false_or, nameIn?_eq_some_iff]
  constructor
  · intro premise
    obtain ⟨location, member, same⟩ := premise
    exact same ▸ member
  · intro member
    exact ⟨_, member, rfl⟩

theorem names_nodup (tree : FileTree) (place : Location) : (tree.names place).Nodup := by
  rw [names_eq]
  exact (List.mergeSort_perm _ _).nodup_iff.2 (orderedUnion_nodup List.nodup_nil _)

namespace WellFormed

variable (wellFormed : tree.WellFormed)

include wellFormed

theorem of_entryAt {place : Location} {name : Name} (present : tree.entryAt (place ++ [name]) ≠ none) :
    tree.entryAt place = some .directory ∧ name.IsProper := by
  obtain ⟨entry, member, same⟩ := List.mem_map.1 ((entryAt_concat_ne_none_iff tree place name).1 present)
  have parent := wellFormed.parents entry member
  have proper := wellFormed.names entry member name
  rw [same, List.dropLast_concat] at parent
  rw [same] at proper
  exact ⟨parent, proper (List.mem_append_right _ List.mem_cons_self)⟩

theorem name_isProper {place : Location} {name : Name} (member : name ∈ tree.names place) : name.IsProper :=
  (wellFormed.of_entryAt ((mem_names_iff tree place name).1 member)).2

/-- By induction from the far end: only directories stand above what lies below a place. -/
theorem directory_above {place : Location} (above : List Name) {below : List Name} (filled : below ≠ [])
    (present : tree.entryAt (place ++ (above ++ below)) ≠ none) :
    tree.entryAt (place ++ above) = some .directory := by
  induction below using List.reverseRecOn with
  | nil => exact absurd rfl filled
  | append_singleton below last ih =>
      rw [← List.append_assoc, ← List.append_assoc] at present
      have isDirectory := (wellFormed.of_entryAt present).1
      cases below with
      | nil =>
          rw [List.append_nil] at isDirectory
          exact isDirectory
      | cons first others =>
          rw [List.append_assoc] at isDirectory
          exact ih (List.cons_ne_nil _ _) (by rw [isDirectory]; exact nofun)

theorem names_isProper {place : Location} {names : List Name} (present : tree.entryAt (place ++ names) ≠ none) :
    ∀ name ∈ names, name.IsProper := by
  intro name member
  obtain ⟨above, below, split⟩ := List.append_of_mem member
  have whole : place ++ names = place ++ ((above ++ [name]) ++ below) := by rw [split]; simp
  rw [whole] at present
  have inside : tree.entryAt (place ++ (above ++ [name])) ≠ none := by
    cases below with
    | nil =>
        rw [List.append_nil] at present
        exact present
    | cons next others =>
        rw [wellFormed.directory_above _ (List.cons_ne_nil _ _) present]
        exact nofun
  rw [← List.append_assoc] at inside
  exact (wellFormed.of_entryAt inside).2

theorem isProper_of_entryAt {location : Location} (present : tree.entryAt location ≠ none) :
    ∀ name ∈ location, name.IsProper :=
  wellFormed.names_isProper (show tree.entryAt ([] ++ location) ≠ none from present)

theorem set_file {place : Location} {name : Name} (free : tree.FreeForFile place) (last : place.getLast? = some name)
    (proper : name.IsProper) (parent : tree.entryAt place.dropLast = some .directory) (content : Content) :
    (tree.set place (.file content)).WellFormed := by
  have known : ∀ entry ∈ (tree.set place (.file content)).entries,
      entry.1 = place ∨ ∃ before ∈ tree.entries, before.1 = entry.1 := by
    intro entry member
    have located : entry.1 ∈ (setEntry place (.file content) tree.entries).map Prod.fst := List.mem_map_of_mem member
    rw [map_fst_setEntry] at located
    split at located
    · exact Or.inr (List.mem_map.1 located)
    · rcases List.mem_append.1 located with old | new
      · exact Or.inr (List.mem_map.1 old)
      · exact Or.inl (List.mem_singleton.1 new)
  have split := List.dropLast_append_getLast? name last
  refine ⟨fun entry member => ?_, fun entry member => (entryAt_set_directory_iff free content _).2 ?_⟩
  · rcases known entry member with atPlace | ⟨before, inTree, same⟩
    · rw [atPlace, ← split, List.forall_mem_append]
      refine ⟨wellFormed.isProper_of_entryAt ?_, List.forall_mem_singleton.2 proper⟩
      exact Option.ne_none_iff_exists'.2 ⟨_, parent⟩
    · exact same ▸ wellFormed.names before inTree
  · rcases known entry member with atPlace | ⟨before, inTree, same⟩
    · exact atPlace ▸ parent
    · exact same ▸ wellFormed.parents before inTree

theorem names_pairwise (place : Location) :
    (tree.names place).Pairwise fun left right => left.bytes < right.bytes := by
  have sorted : (tree.names place).Pairwise fun left right => nameBefore left right = true := by
    rw [names_eq]
    exact List.pairwise_mergeSort nameBefore_trans nameBefore_total _
  refine (sorted.and (names_nodup tree place)).imp_of_mem fun inLeft inRight premise => ?_
  obtain ⟨before, apart⟩ := premise
  exact (wellFormed.name_isProper inLeft).bytes_lt (wellFormed.name_isProper inRight) apart before

end WellFormed

end FileTree

end Listfile
