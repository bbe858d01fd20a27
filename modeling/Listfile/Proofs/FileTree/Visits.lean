import Listfile.Proofs.FileTree.Walk
import Listfile.Proofs.FileTree.WellFormed

set_option autoImplicit false

/-! What a walk visits in any tree, links and loops included. Each file and each directory is reached by names that lead
down from the start, and the directory around it was visited too, since a walk lists no directory that it did not
report. -/

namespace Listfile.FileTree

variable {tree : FileTree} {start : Path}

/-- The path of something that was found. What cannot be read and what loops is only complained about. -/
def Visit.found? : Visit → Option Path
  | .file path => some path
  | .directory path => some path
  | _ => none

def entryVisits (tree : FileTree) (budget : Nat) (here : Stop) (above : List Stop) (name : Name) : List Visit :=
  match tree.entryAt (here.location ++ [name]) with
  | some (.file _) => if name.isHidden then [] else [.file (here.path.child name)]
  | some .directory =>
    if name.isHidden then []
    else .directory (here.path.child name) ::
      tree.walkBelow budget ⟨here.path.child name, here.location ++ [name]⟩ (here :: above)
  | some (.link _) =>
    match tree.followEntry budget here.location name (here.path.child name) with
    | .error fault => [.unreadable (here.path.child name) fault]
    | .ok arrival =>
      match tree.entryAt arrival.location with
      | some (.file _) => if name.isHidden then [] else [.file (here.path.child name)]
      | some .directory =>
        match (here :: above).find? (·.location = arrival.location) with
        | some ancestor => [.loop (here.path.child name) ancestor.path]
        | none =>
          if name.isHidden then []
          else .directory (here.path.child name) ::
            tree.walkBelow arrival.budget ⟨here.path.child name, arrival.location⟩ (here :: above)
      | _ => []
  | none => []

theorem walkBelow_eq (budget : Nat) (here : Stop) (above : List Stop) :
    tree.walkBelow budget here above =
      match checkPath here.path with
      | .error fault => [.unreadable here.path fault]
      | .ok () => (tree.names here.location).flatMap (tree.entryVisits budget here above) := by
  cases valid : checkPath here.path with
  | error fault => rw [walkBelow, valid]
  | ok done =>
      rw [walkBelow, valid]
      refine congrArg (fun visits => (tree.names here.location).flatMap visits) (funext fun name => ?_)
      rw [entryVisits]
      cases linked : tree.entryAt (here.location ++ [name]) with
      | none => rfl
      | some entry =>
          cases entry with
          | file content => rfl
          | directory => rfl
          | link target =>
              dsimp only
              cases followed : tree.followEntry budget here.location name (here.path.child name) with
              | error fault => rfl
              | ok arrival =>
                  dsimp only
                  cases reached : tree.entryAt arrival.location with
                  | none => rfl
                  | some other =>
                      cases other with
                      | file content => rfl
                      | link target => rfl
                      | directory =>
                          dsimp only
                          cases known : (here :: above).find? (·.location = arrival.location) with
                          | none => rfl
                          | some ancestor => rfl

/-- Every directory that a walk enters from another one: by its name, or by a link that does not loop. -/
inductive Enters (tree : FileTree) (budget : Nat) (here : Stop) (above : List Stop) (name : Name) : Nat → Stop → Prop
  | named (isDirectory : tree.entryAt (here.location ++ [name]) = some .directory) :
      Enters tree budget here above name budget ⟨here.path.child name, here.location ++ [name]⟩
  | linked (arrival : Arrival) (isDirectory : tree.entryAt arrival.location = some .directory)
      (new : (here :: above).find? (·.location = arrival.location) = none) :
      Enters tree budget here above name arrival.budget ⟨here.path.child name, arrival.location⟩

theorem entryVisits_cases (budget : Nat) (here : Stop) (above : List Stop) (name : Name) :
    (∀ visit ∈ tree.entryVisits budget here above name, visit.found? = none) ∨
      tree.entryVisits budget here above name = [.file (here.path.child name)] ∨
      ∃ left next, tree.Enters budget here above name left next ∧ next.path = here.path.child name ∧
        tree.entryVisits budget here above name = .directory next.path :: tree.walkBelow left next (here :: above) := by
  rw [entryVisits]
  cases linked : tree.entryAt (here.location ++ [name]) with
  | none => exact Or.inl (List.forall_mem_nil _)
  | some entry =>
      cases hidden : name.isHidden with
      | true =>
          apply Or.inl
          simp only [↓reduceIte]
          repeat' split
          all_goals simp [Visit.found?]
      | false =>
          cases entry with
          | file content => exact Or.inr (Or.inl rfl)
          | directory => exact Or.inr (Or.inr ⟨_, _, .named linked, rfl, rfl⟩)
          | link target =>
              dsimp only
              split
              · exact Or.inl (List.forall_mem_singleton.2 rfl)
              · rename_i arrival _arrived
                split
                · exact Or.inr (Or.inl rfl)
                · rename_i reached
                  split
                  · exact Or.inl (List.forall_mem_singleton.2 rfl)
                  · rename_i new
                    exact Or.inr (Or.inr ⟨_, _, .linked arrival reached new, rfl, rfl⟩)
                · exact Or.inl (List.forall_mem_nil _)

/-- Names of the tree that lead down from a start to a visit, by a directory that is the start or is visited as well. -/
structure LeadsDown (tree : FileTree) (visits : List Visit) (start : Path) (names : List Name) : Prop where
  filled : names ≠ []
  around : names.dropLast = [] ∨ .directory (start.descend names.dropLast) ∈ visits
  known : ∀ name ∈ names, ∃ place, tree.entryAt (place ++ [name]) ≠ none

namespace LeadsDown

theorem single {visits : List Visit} {name : Name} {place : Location}
    (present : tree.entryAt (place ++ [name]) ≠ none) : tree.LeadsDown visits start [name] where
  filled := List.cons_ne_nil _ _
  around := Or.inl rfl
  known := List.forall_mem_singleton.2 ⟨place, present⟩

theorem cons {visits deeper : List Visit} {name : Name} {place : Location} {names : List Name}
    (present : tree.entryAt (place ++ [name]) ≠ none) (visited : .directory (start.child name) ∈ visits)
    (within : ∀ visit ∈ deeper, visit ∈ visits) (down : tree.LeadsDown deeper (start.child name) names) :
    tree.LeadsDown visits start (name :: names) where
  filled := List.cons_ne_nil _ _
  around := by
    apply Or.inr
    rw [List.dropLast_cons_of_ne_nil down.filled, Path.descend_cons]
    rcases down.around with atDirectory | below
    · rw [atDirectory]
      exact visited
    · exact within _ below
  known := List.forall_mem_cons.2 ⟨⟨place, present⟩, down.known⟩

end LeadsDown

/-- By induction on the walk: a name leads to a file or to a directory, and further names lead to what the walk finds
below the directory. -/
theorem exists_leadsDown_walkBelow (budget : Nat) (here : Stop) (above : List Stop) :
    ∀ visit ∈ tree.walkBelow budget here above, ∀ path, visit.found? = some path →
      ∃ names, path = here.path.descend names ∧
        tree.LeadsDown (tree.walkBelow budget here above) here.path names := by
  induction budget, here, above using walkBelow.induct tree with
  | case1 budget here above fault blocked =>
      intro visit member path found
      rw [walkBelow_eq, blocked, List.mem_singleton] at member
      rw [member] at found
      cases found
  | case2 budget here above valid ihNamed ihLinked =>
      intro visit member path found
      have listing : tree.walkBelow budget here above =
          (tree.names here.location).flatMap (tree.entryVisits budget here above) := by
        rw [walkBelow_eq, valid]
      rw [listing] at member ⊢
      obtain ⟨name, inNames, member⟩ := List.mem_flatMap.1 member
      have present := (mem_names_iff tree here.location name).1 inNames
      have within : ∀ other ∈ tree.entryVisits budget here above name,
          other ∈ (tree.names here.location).flatMap (tree.entryVisits budget here above) :=
        fun other inVisits => List.mem_flatMap.2 ⟨name, inNames, inVisits⟩
      rcases tree.entryVisits_cases budget here above name with nothing | isFile | ⟨left, next, enters, atChild, visits⟩
      · rw [nothing visit member] at found
        cases found
      · rw [isFile, List.mem_singleton] at member
        rw [member] at found
        cases found
        exact ⟨[name], rfl, .single present⟩
      · have deeper : ∀ visit ∈ tree.walkBelow left next (here :: above), ∀ path, visit.found? = some path →
            ∃ names, path = next.path.descend names ∧
              tree.LeadsDown (tree.walkBelow left next (here :: above)) next.path names := by
          cases enters with
          | named isDirectory => exact ihNamed name isDirectory
          | linked arrival isDirectory new => exact ihLinked name arrival isDirectory new
        rw [visits, atChild, List.mem_cons] at member
        rw [visits, List.forall_mem_cons] at within
        rcases member with isDirectory | later
        · rw [isDirectory] at found
          cases found
          exact ⟨[name], rfl, .single present⟩
        · obtain ⟨names, below, down⟩ := deeper visit later path found
          rw [atChild] at below down within
          exact ⟨name :: names, below, .cons present within.1 within.2 down⟩

theorem exists_walk_eq_cons (isDirectory : tree.isDirectory start = true) :
    ∃ budget place, tree.walk start = .directory start :: tree.walkBelow budget ⟨start, place⟩ [] := by
  obtain ⟨arrival, arrived, reached⟩ := (isDirectory_iff tree start).1 isDirectory
  refine ⟨arrival.budget, arrival.location, ?_⟩
  rw [walk, arrived]
  dsimp only
  rw [reached]

theorem walk_of_not_directory (noDirectory : tree.isDirectory start = false) :
    tree.walk start = match tree.entry? start with
      | some (.file _) => [.file start]
      | _ => [] := by
  rw [isDirectory, FileTree.entry?] at noDirectory
  rw [walk, FileTree.entry?]
  cases arrived : tree.lookup start with
  | error fault => rfl
  | ok arrival =>
      rw [arrived] at noDirectory
      dsimp only at noDirectory ⊢
      cases reached : tree.entryAt arrival.location with
      | none => rfl
      | some entry =>
          cases entry with
          | directory => rw [reached] at noDirectory; cases noDirectory
          | file content => rfl
          | link target => rfl

theorem leadsDown_of_mem_walk (isDirectory : tree.isDirectory start = true) {visit : Visit}
    (member : visit ∈ tree.walk start) {path : Path} (found : visit.found? = some path) :
    visit = .directory start ∨ ∃ names, path = start.descend names ∧ tree.LeadsDown (tree.walk start) start names := by
  obtain ⟨budget, place, listing⟩ := exists_walk_eq_cons isDirectory
  rw [listing] at member ⊢
  rcases List.mem_cons.1 member with atStart | later
  · exact Or.inl atStart
  · obtain ⟨names, below, down⟩ := exists_leadsDown_walkBelow budget ⟨start, place⟩ [] visit later path found
    refine Or.inr ⟨names, below, down.filled, ?_, down.known⟩
    exact down.around.imp_right (List.mem_cons_of_mem _)

namespace LeadsDown

variable {names : List Name} (down : tree.LeadsDown (tree.walk start) start names)

include down

theorem around_mem_walk (isDirectory : tree.isDirectory start = true) :
    .directory (start.descend names.dropLast) ∈ tree.walk start := by
  rcases down.around with atStart | visited
  · obtain ⟨budget, place, listing⟩ := exists_walk_eq_cons isDirectory
    rw [atStart, listing]
    exact List.mem_cons_self
  · exact visited

theorem proper (wellFormed : tree.WellFormed) : ∀ name ∈ names, name.IsProper := by
  intro name member
  obtain ⟨place, present⟩ := down.known name member
  exact (wellFormed.of_entryAt present).2

end LeadsDown

/-- Proper names lead down from the start of a walk to whatever is found, also where the start is a file. -/
theorem exists_descend_of_mem_walk (wellFormed : tree.WellFormed) {visit : Visit} (member : visit ∈ tree.walk start)
    {path : Path} (found : visit.found? = some path) :
    ∃ names, path = start.descend names ∧ ∀ name ∈ names, name.IsProper := by
  cases isDirectory : tree.isDirectory start with
  | true =>
      rcases leadsDown_of_mem_walk isDirectory member found with atStart | ⟨names, below, down⟩
      · rw [atStart] at found
        cases found
        exact ⟨[], rfl, List.forall_mem_nil _⟩
      · exact ⟨names, below, down.proper wellFormed⟩
  | false =>
      rw [walk_of_not_directory isDirectory] at member
      split at member
      · rw [List.mem_singleton.1 member] at found
        cases found
        exact ⟨[], rfl, List.forall_mem_nil _⟩
      · cases member

end Listfile.FileTree
