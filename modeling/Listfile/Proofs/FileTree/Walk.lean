import Listfile.Proofs.FileTree.LinkFree
import Listfile.Proofs.FileTree.Names
import Listfile.Proofs.Lists

set_option autoImplicit false

/-! Walks in a tree without links, before and after a file was put at a free place. Whatever directory a walk begins in
and however deep it goes, it visits the same files and directories in the same order, apart from files that have
the name of the new one. -/

namespace Listfile.FileTree

variable {tree : FileTree} {place : Location} {content : Content}

/-- All visits but those of files that are called `name`, or of which the path does not end in a name. -/
def Visit.isApartFrom (name : Name) : Visit → Bool
  | .file path => path.fileName?.any (· ≠ name)
  | _ => true

theorem Visit.not_isApartFrom {path : Path} {name : Name} (named : ∀ other, path.fileName? = some other → other = name) :
    Visit.isApartFrom name (.file path) = false := by
  rw [isApartFrom]
  cases found : path.fileName? with
  | none => rfl
  | some other => simpa using named other found

theorem filter_plainVisits_of_free {name : Name} (plain : name.IsPlain) (inside : .separator ∉ name) {here : Stop}
    (free : tree.FreeForFile (here.location ++ [name])) (budget : Nat) (above : List Stop) :
    (tree.plainVisits budget here above name).filter (Visit.isApartFrom name) = [] := by
  obtain ⟨front, written⟩ := here.path.segments_join_ofName inside
  have named : (here.path.child name).fileName? = some name := Path.fileName?_of_segments plain written
  have dropped : Visit.isApartFrom name (.file (here.path.child name)) = false :=
    Visit.not_isApartFrom fun other found => Option.some.inj (found.symm.trans named)
  rw [plainVisits]
  rcases free with absent | ⟨content, isFile⟩
  · rw [absent]
    rfl
  · rw [isFile]
    dsimp only
    split
    · rfl
    · rw [List.filter_cons_of_neg (by simp [dropped]), List.filter_nil]

theorem filter_walk_eq_nil {start : Path} {name : Name} (dropped : Visit.isApartFrom name (.file start) = false)
    (only : ∀ arrival, tree.lookup start = .ok arrival → tree.FreeForFile arrival.location) :
    (tree.walk start).filter (Visit.isApartFrom name) = [] := by
  have single : [Visit.file start].filter (Visit.isApartFrom name) = [] :=
    List.filter_cons_of_neg (by simp [dropped])
  rw [walk]
  cases arrived : tree.lookup start with
  | error fault => rfl
  | ok arrival =>
      dsimp only
      rcases only arrival arrived with absent | ⟨other, isFile⟩
      · rw [absent]
        rfl
      · rw [isFile]
        exact single

section

variable (linkFree : tree.LinkFree) (free : tree.FreeForFile place) {name : Name} (plain : name.IsPlain)
  (inside : .separator ∉ name) (last : place.getLast? = some name)

include linkFree free plain inside last

/-- By induction on how much deeper directories lie: the entries of a directory are the same but for the new one. -/
theorem filter_walkBelow_set (budget : Nat) (here : Stop) (above : List Stop) :
    ((tree.set place (.file content)).walkBelow budget here above).filter (Visit.isApartFrom name) =
      (tree.walkBelow budget here above).filter (Visit.isApartFrom name) := by
  induction size : tree.depth - here.location.length using Nat.strongRecOn generalizing here above with
  | ind size ih =>
      rw [(linkFree.set_file free content).walkBelow_eq, linkFree.walkBelow_eq]
      split
      · rfl
      · have called : ∀ other, here.location ++ [other] = place → other = name := by
          intro other same
          rw [← same, List.getLast?_concat] at last
          exact Option.some.inj last
        have silent : ∀ {whole : FileTree}, whole.FreeForFile place → ∀ other,
            decide (here.location ++ [other] ≠ place) = false →
              (whole.plainVisits budget here above other).filter (Visit.isApartFrom name) = [] := by
          intro whole isFree other same
          rw [decide_eq_false_iff_not, not_not] at same
          rw [← same, called other same] at isFree
          rw [called other same]
          exact filter_plainVisits_of_free plain inside isFree budget above
        rw [List.filter_flatMap, List.filter_flatMap,
          flatMap_eq_flatMap_filter _ fun other _member => silent (free.set_file content) other,
          flatMap_eq_flatMap_filter _ fun other _member => silent free other, filter_names_set]
        refine List.flatMap_congr fun other member => ?_
        have apart : here.location ++ [other] ≠ place := of_decide_eq_true (List.mem_filter.1 member).2
        rw [plainVisits, plainVisits, entryAt_set_of_ne apart]
        split
        · rfl
        · rename_i isDirectory
          split
          · rfl
          · have deeper := length_le_depth (mem_directories isDirectory)
            rw [List.length_append, List.length_singleton] at deeper
            rw [List.filter_cons_of_pos rfl, List.filter_cons_of_pos rfl]
            refine congrArg _ (ih _ ?_ ⟨here.path.child other, here.location ++ [other]⟩ (here :: above) rfl)
            rw [List.length_append, List.length_singleton]
            omega
        · rfl

theorem filter_walk_set (start : Path) :
    ((tree.set place (.file content)).walk start).filter (Visit.isApartFrom name) =
      (tree.walk start).filter (Visit.isApartFrom name) := by
  cases arrived : (tree.set place (.file content)).lookup start with
  | error fault =>
      have nowhere : tree.walk start = [] := by
        cases before : tree.lookup start with
        | error other => rw [walk, before]
        | ok arrival =>
            rw [lookup_set free before] at arrived
            cases arrived
      rw [walk, arrived, nowhere]
  | ok arrival =>
      by_cases atPlace : arrival.location = place
      · have dropped : Visit.isApartFrom name (.file start) = false := by
          refine Visit.not_isApartFrom fun other named => ?_
          have isLast := (linkFree.set_file free content).getLast?_of_lookup arrived
            (by rw [atPlace]; exact (free.set_file content).not_directory) named
          rw [atPlace, last] at isLast
          exact (Option.some.inj isLast).symm
        rw [filter_walk_eq_nil dropped, filter_walk_eq_nil dropped]
        · intro earlier before
          rw [← Except.ok.inj (arrived.symm.trans (lookup_set free before)), atPlace]
          exact free
        · intro same again
          rw [← Except.ok.inj (arrived.symm.trans again), atPlace]
          exact free.set_file content
      · rw [walk, arrived, walk, lookup_of_set free arrived atPlace]
        dsimp only
        rw [entryAt_set_of_ne atPlace]
        split
        · rfl
        · rw [List.filter_cons_of_pos rfl, List.filter_cons_of_pos rfl,
            filter_walkBelow_set linkFree free plain inside last]
        · rfl

end

theorem isDirectory_iff (tree : FileTree) (path : Path) :
    tree.isDirectory path = true ↔
      ∃ arrival, tree.lookup path = .ok arrival ∧ tree.entryAt arrival.location = some .directory := by
  rw [isDirectory, entry?]
  cases tree.lookup path with
  | error fault => simp
  | ok arrival =>
      dsimp only
      split <;> simp_all

theorem isDirectory_set (free : tree.FreeForFile place) (path : Path) :
    (tree.set place (.file content)).isDirectory path = tree.isDirectory path := by
  rw [Bool.eq_iff_iff, isDirectory_iff, isDirectory_iff]
  simp only [entryAt_set_directory_iff free]
  constructor
  · intro premise
    obtain ⟨arrival, arrived, isDirectory⟩ := premise
    refine ⟨arrival, lookup_of_set free arrived fun atPlace => ?_, isDirectory⟩
    rw [atPlace] at isDirectory
    exact free.not_directory isDirectory
  · intro premise
    obtain ⟨arrival, arrived, isDirectory⟩ := premise
    exact ⟨arrival, lookup_set free arrived, isDirectory⟩

end Listfile.FileTree
