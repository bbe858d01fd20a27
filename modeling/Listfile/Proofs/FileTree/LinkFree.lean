import Listfile.FileTree.Walk
import Listfile.Proofs.FileTree.Lookup
import Listfile.Proofs.Path.Segments

set_option autoImplicit false

/-! Trees without symbolic links. There a path that leads to a file leads to one of its own name, and a walk goes down
from each directory to the entries in it and nowhere else. -/

namespace Listfile.FileTree

variable {tree : FileTree} {place : Location} {content : Content}

def LinkFree (tree : FileTree) : Prop := ∀ location target, tree.entryAt location ≠ some (.link target)

theorem linkFree_of_entries (noLink : ∀ entry ∈ tree.entries, ∀ target, entry.2 ≠ .link target) : tree.LinkFree := by
  intro location target isLink
  rw [entryAt] at isLink
  split at isLink
  · cases isLink
  · obtain ⟨_before, _after, whole, _earlier⟩ := List.lookup_eq_some_iff.1 isLink
    exact noLink (location, .link target) (by rw [whole]; simp) target rfl

namespace LinkFree

theorem set_file (linkFree : tree.LinkFree) (free : tree.FreeForFile place) (content : Content) :
    (tree.set place (.file content)).LinkFree := by
  intro location target
  by_cases same : location = place
  · rw [same, free.entryAt_set]
    exact nofun
  · rw [entryAt_set_of_ne same]
    exact linkFree location target

theorem stepFrom_cases (linkFree : tree.LinkFree) {here : Location} {segment : Name} {result : Step}
    (stepped : tree.stepFrom here segment = .ok result) :
    result = .place here ∨ segment = Name.parent ∧ result = .place here.dropLast ∨
      segment.IsPlain ∧ (result = .place (here ++ [segment]) ∨ result = .absent (here ++ [segment])) := by
  rcases FileTree.stepFrom_cases stepped with stays | goesUp | ⟨plain, goesDown⟩
  · exact Or.inl stays
  · exact Or.inr (Or.inl goesUp)
  · refine Or.inr (Or.inr ⟨plain, ?_⟩)
    rw [goesDown]
    cases found : tree.entryAt (here ++ [segment]) with
    | none => exact Or.inr rfl
    | some entry =>
        cases entry with
        | link target => exact absurd found (linkFree _ target)
        | file content => exact Or.inl rfl
        | directory => exact Or.inl rfl

/-- The file to which a path leads has the file name of the path. -/
theorem getLast?_of_lookup (linkFree : tree.LinkFree) {path : Path} {arrival : Arrival} {name : Name}
    (arrived : tree.lookup path = .ok arrival) (noDirectory : tree.entryAt arrival.location ≠ some .directory)
    (named : path.fileName? = some name) : arrival.location.getLast? = some name := by
  obtain ⟨_valid, leads⟩ := (lookup_eq_ok_iff _ _ _).1 arrived
  obtain ⟨front, last, written⟩ := path.exists_segments_eq
  rw [written] at leads
  obtain ⟨⟨location, budget⟩, _before, lastStep⟩ := leads.split
  cases lastStep with
  | around stepped _later =>
      rcases linkFree.stepFrom_cases ((step_eq_ok_iff _ _ _ _).1 stepped).2 with stays | ⟨_isParent, goesUp⟩ |
        ⟨_plain, goesDown | absent⟩
      · cases stays
      · cases goesUp
      · cases goesDown
      · cases absent
  | through stepped later =>
      obtain ⟨isDirectory, stepped⟩ := (step_eq_ok_iff _ _ _ _).1 stepped
      cases later
      rcases linkFree.stepFrom_cases stepped with stays | ⟨isParent, _goesUp⟩ | ⟨plain, goesDown | absent⟩
      · cases stays
        exact absurd isDirectory noDirectory
      · rw [isParent] at written
        rw [Path.fileName?_of_segments_parent written] at named
        cases named
      · cases goesDown
        rw [Path.fileName?_of_segments plain written] at named
        rw [List.getLast?_concat]
        exact named
      · cases absent

end LinkFree

def plainVisits (tree : FileTree) (budget : Nat) (here : Stop) (above : List Stop) (name : Name) : List Visit :=
  match tree.entryAt (here.location ++ [name]) with
  | some (.file _) => if name.isHidden then [] else [.file (here.path.child name)]
  | some .directory =>
    if name.isHidden then []
    else .directory (here.path.child name) ::
      tree.walkBelow budget ⟨here.path.child name, here.location ++ [name]⟩ (here :: above)
  | _ => []

theorem LinkFree.walkBelow_eq (linkFree : tree.LinkFree) (budget : Nat) (here : Stop) (above : List Stop) :
    tree.walkBelow budget here above =
      match checkPath here.path with
      | .error fault => [.unreadable here.path fault]
      | .ok () => (tree.names here.location).flatMap (tree.plainVisits budget here above) := by
  cases valid : checkPath here.path with
  | error fault => rw [walkBelow, valid]
  | ok done =>
      rw [walkBelow, valid]
      refine congrArg (fun visits => (tree.names here.location).flatMap visits) (funext fun name => ?_)
      rw [plainVisits]
      split
      · rename_i isFile
        rw [isFile]
      · rename_i isDirectory
        rw [isDirectory]
      · rename_i isLink
        exact absurd isLink (linkFree _ _)
      · rename_i absent
        rw [absent]

end Listfile.FileTree
