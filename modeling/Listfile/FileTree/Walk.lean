import Listfile.FileTree.Lookup

set_option autoImplicit false

/-! Walking a directory depth first. A directory comes before what is in it, and names come in the order
of their bytes. Links are followed; a link that leads back to a directory on the way to it is reported
and not entered, so every walk ends. Hidden entries are left out with everything below them, but not
the place where the walk begins. -/

namespace Listfile.FileTree

inductive Visit where
  | file (path : Path)
  | directory (path : Path)
  | unreadable (path : Path) (fault : FileFault)
  | loop (path ancestor : Path)
  deriving DecidableEq, Repr

/-- A directory that the walk is in: the path that led there, and its location. -/
structure Stop where
  path : Path
  location : Location
  deriving DecidableEq, Repr

def directories (tree : FileTree) : List Location :=
  [] :: tree.entries.filterMap fun entry =>
    match entry.2 with
    | .directory => some entry.1
    | _ => none

theorem mem_directories {tree : FileTree} {location : Location}
    (isDirectory : tree.entryAt location = some .directory) : location ∈ tree.directories := by
  rw [directories, List.mem_cons, List.mem_filterMap]
  by_cases atRoot : location = []
  · exact Or.inl atRoot
  · rw [entryAt, if_neg atRoot] at isDirectory
    obtain ⟨before, after, whole, _apart⟩ := List.lookup_eq_some_iff.1 isDirectory
    have member : (location, Entry.directory) ∈ tree.entries := by
      rw [whole]
      exact List.mem_append_right before List.mem_cons_self
    exact Or.inr ⟨_, member, rfl⟩

def depth (tree : FileTree) : Nat := tree.directories.foldr (fun location most => max location.length most) 0

theorem length_le_depth {tree : FileTree} {location : Location} (member : location ∈ tree.directories) :
    location.length ≤ tree.depth := by
  rw [depth]
  generalize tree.directories = all at member
  induction all with
  | nil => cases member
  | cons first others ih =>
      rw [List.foldr_cons]
      rcases List.mem_cons.1 member with same | later
      · rw [same]
        exact Nat.le_max_left _ _
      · exact Nat.le_trans (ih later) (Nat.le_max_right _ _)

/-- The directories that the walk is not in. -/
def unvisited (tree : FileTree) (stops : List Stop) : List Location :=
  tree.directories.filter fun location => stops.all (·.location ≠ location)

theorem unvisited_cons (tree : FileTree) (stop : Stop) (stops : List Stop) :
    tree.unvisited (stop :: stops) = (tree.unvisited stops).filter fun location => stop.location ≠ location := by
  rw [unvisited, unvisited, List.filter_filter]
  simp only [List.all_cons]

theorem unvisited_cons_le (tree : FileTree) (stop : Stop) (stops : List Stop) :
    (tree.unvisited (stop :: stops)).length ≤ (tree.unvisited stops).length := by
  rw [unvisited_cons]
  exact List.length_filter_le _ _

theorem unvisited_cons_lt {tree : FileTree} {stop : Stop} {stops : List Stop}
    (isDirectory : stop.location ∈ tree.directories) (new : ∀ other ∈ stops, other.location ≠ stop.location) :
    (tree.unvisited (stop :: stops)).length < (tree.unvisited stops).length := by
  have unseen : stop.location ∈ tree.unvisited stops := by
    apply List.mem_filter.2
    constructor
    · exact isDirectory
    · exact List.all_eq_true.2 fun other member => decide_eq_true (new other member)
  rw [unvisited_cons, List.length_filter_lt_length_iff_exists]
  exact ⟨stop.location, unseen, by simp⟩

/-- Where a link leads that is an entry of a directory of the walk and has this path there. -/
def followEntry (tree : FileTree) (budget : Nat) (directory : Location) (name : Name) (path : Path) :
    Except FileFault Arrival :=
  match checkPath path with
  | .ok () => tree.follow budget directory [name]
  | .error fault => .error fault

set_option linter.unusedVariables false in
/-- The entries below the first of `stops`. The other stops lead there, nearest first; a directory that
is reached by its own name is always entered, one that is reached by a link only if it is not a stop. The
entries of a directory are read by its path, which may have become too long. -/
def walkBelow (tree : FileTree) (budget : Nat) (here : Stop) (above : List Stop) : List Visit :=
  match checkPath here.path with
  | .error fault => [.unreadable here.path fault]
  | .ok () =>
    (tree.names here.location).flatMap fun name =>
      let path := here.path.child name
      match linked : tree.entryAt (here.location ++ [name]) with
      | some (.file _) => if name.isHidden then [] else [.file path]
      | some .directory =>
        if name.isHidden then []
        else .directory path :: tree.walkBelow budget ⟨path, here.location ++ [name]⟩ (here :: above)
      | some (.link _) =>
        match tree.followEntry budget here.location name path with
        | .error fault => [.unreadable path fault]
        | .ok arrival =>
          match reached : tree.entryAt arrival.location with
          | some (.file _) => if name.isHidden then [] else [.file path]
          | some .directory =>
            match known : (here :: above).find? (·.location = arrival.location) with
            | some ancestor => [.loop path ancestor.path]
            | none =>
              if name.isHidden then []
              else .directory path :: tree.walkBelow arrival.budget ⟨path, arrival.location⟩ (here :: above)
          | _ => []
      | none => []
  termination_by ((tree.unvisited (here :: above)).length, tree.depth - here.location.length)
  decreasing_by
    · have within := length_le_depth (mem_directories linked)
      rw [List.length_append, List.length_singleton] at within
      rcases Nat.lt_or_eq_of_le (tree.unvisited_cons_le ⟨path, here.location ++ [name]⟩ (here :: above)) with less | same
      · exact Prod.Lex.left _ _ less
      · rw [same]
        apply Prod.Lex.right
        rw [List.length_append, List.length_singleton]
        omega
    · refine Prod.Lex.left _ _ (unvisited_cons_lt (mem_directories reached) ?_)
      intro other member equal
      exact absurd (List.find?_eq_none.1 known other member) (by simpa using equal)

/-- The walk that begins at a path, which may also be a file. A path that leads nowhere gives no visit. -/
def walk (tree : FileTree) (start : Path) : List Visit :=
  match tree.lookup start with
  | .error _ => []
  | .ok arrival =>
    match tree.entryAt arrival.location with
    | some (.file _) => [.file start]
    | some .directory => .directory start :: tree.walkBelow arrival.budget ⟨start, arrival.location⟩ []
    | _ => []

end Listfile.FileTree
