import Listfile.Proofs.FileTree.LinkFree
import Listfile.Proofs.Path.Spelling
import Mathlib.Data.Set.List

set_option autoImplicit false

/-! Where a path leads in a tree without links can be read off the path: each component that moves goes up, or down by
its name. So all spellings of a path lead to the same place, if they lead anywhere. -/

namespace Listfile

def Component.moveFrom (here : Location) : Component → Location
  | .parent => here.dropLast
  | .normal name => here ++ [name]
  | _ => here

namespace Path

/-- The place of which a path speaks that is written in the directory `base`, whatever exists there. -/
def place (path : Path) (base : Location) : Location :=
  path.moves.foldl Component.moveFrom (FileTree.origin base path)

theorem Respells.place_eq {left right : Path} (respells : left.Respells right) (base : Location) :
    left.place base = right.place base := by
  rw [place, place, FileTree.origin, FileTree.origin, respells.isAbsolute, respells.moves]

theorem foldl_moveFrom_names (here : Location) (names : List Name) :
    (names.map .normal).foldl Component.moveFrom here = here ++ names := by
  induction names generalizing here with
  | nil => exact (List.append_nil here).symm
  | cons name names ih =>
      rw [List.map_cons, List.foldl_cons, ih, Component.moveFrom, List.append_assoc, List.singleton_append]

theorem place_descend (start : Path) {names : List Name} (proper : ∀ name ∈ names, name.IsProper) (base : Location) :
    (start.descend names).place base = start.place base ++ names := by
  rw [place, place, moves_descend start proper, List.foldl_append, foldl_moveFrom_names, FileTree.origin,
    FileTree.origin, isAbsolute_descend start proper]

end Path

namespace FileTree

variable {tree : FileTree}

theorem step_eq_place {here next : Location} {segment : Name} (stepped : tree.step here segment = .ok (.place next)) :
    ((Component.ofSegment? segment).elim here fun component => component.moveFrom here) = next := by
  have stepped := ((step_eq_ok_iff _ _ _ _).1 stepped).2
  rw [stepFrom] at stepped
  rw [Component.ofSegment?]
  split at stepped
  · rename_i stays
    cases stepped
    rw [if_pos stays, Option.elim_none]
  · rename_i moves
    rw [if_neg moves]
    split at stepped
    · rename_i isParent
      cases stepped
      rw [if_pos isParent, Option.elim_some, Component.moveFrom]
    · rename_i notParent
      rw [if_neg notParent, Option.elim_some, Component.moveFrom]
      split at stepped
      · cases stepped
      · split at stepped <;> cases stepped
        rfl

/-- What a name leads to that is on the way of a lookup is an entry. -/
theorem entryAt_ne_none_of_step {here : Location} {segment : Name} (plain : segment.IsPlain) {result : Step}
    (stepped : tree.step here segment = .ok result) (present : ∀ next, result ≠ .absent next) :
    tree.entryAt (here ++ [segment]) ≠ none := by
  have stepped := ((step_eq_ok_iff _ _ _ _).1 stepped).2
  rw [stepFrom, if_neg (not_or.2 ⟨plain.1, plain.2.1⟩), if_neg plain.2.2] at stepped
  split at stepped
  · cases stepped
  · intro absent
    rw [absent] at stepped
    exact present _ (Except.ok.inj stepped).symm

theorem Leads.exists_entry {budget : Nat} {here : Location} {segments : List Name} {arrival : Arrival}
    (leads : tree.Leads budget here segments arrival) :
    ∀ segment ∈ segments, segment.IsPlain → ∃ place, tree.entryAt (place ++ [segment]) ≠ none := by
  induction leads with
  | done => exact fun segment member => absurd member List.not_mem_nil
  | through stepped _later ih =>
      exact List.forall_mem_cons.2 ⟨fun plain => ⟨_, entryAt_ne_none_of_step plain stepped (fun _next => nofun)⟩, ih⟩
  | around stepped _later ih =>
      refine List.forall_mem_cons.2 ⟨fun plain => ⟨_, entryAt_ne_none_of_step plain stepped (fun _next => nofun)⟩, ?_⟩
      exact fun segment member => ih segment (List.mem_append_right _ member)

namespace LinkFree

variable (linkFree : tree.LinkFree)

include linkFree

theorem location_of_leads {budget : Nat} {here : Location} {segments : List Name} {arrival : Arrival}
    (leads : tree.Leads budget here segments arrival) :
    arrival.location = (segments.filterMap Component.ofSegment?).foldl Component.moveFrom here := by
  induction leads with
  | done budget here => rfl
  | @through budget here next segment rest arrival stepped later ih =>
      have moved := step_eq_place stepped
      rw [ih, List.filterMap_cons]
      cases counts : Component.ofSegment? segment with
      | none =>
          rw [counts, Option.elim_none] at moved
          rw [moved]
      | some component =>
          rw [counts, Option.elim_some] at moved
          rw [List.foldl_cons, moved]
  | @around budget here target segment rest arrival stepped later ih =>
      rcases linkFree.stepFrom_cases ((step_eq_ok_iff _ _ _ _).1 stepped).2 with stays | ⟨_isParent, goesUp⟩ |
        ⟨_plain, goesDown | absent⟩
      · cases stays
      · cases goesUp
      · cases goesDown
      · cases absent

theorem location_of_lookup {path : Path} {arrival : Arrival} (arrived : tree.lookup path = .ok arrival) :
    arrival.location = path.place tree.workingDirectory :=
  linkFree.location_of_leads ((lookup_eq_ok_iff _ _ _).1 arrived).2

end LinkFree

end FileTree

namespace Path

/-- Paths without `..` that are both relative or both absolute. -/
structure GoDownAlike (left right : Path) : Prop where
  isAbsolute : left.isAbsolute = right.isAbsolute
  left : .parent ∉ left.moves
  right : .parent ∉ right.moves

theorem exists_moves_eq {path : Path} (down : .parent ∉ path.moves) :
    ∃ names : List Name, path.moves = names.map .normal := by
  have named : path.moves ∈ Set.range (List.map Component.normal) := by
    rw [Set.range_list_map]
    intro component member
    obtain ⟨segment, _inSegments, counts⟩ := List.mem_filterMap.1 member
    rw [Component.ofSegment?] at counts
    split at counts
    · cases counts
    · split at counts
      · rw [← Option.some.inj counts] at member
        exact absurd member down
      · exact ⟨segment, Option.some.inj counts⟩
  obtain ⟨names, same⟩ := named
  exact ⟨names, same.symm⟩

/-- Paths that only go down, and lead from the same root to the same place, are the same. -/
theorem GoDownAlike.respells {root left right : Path} (alike : left.GoDownAlike right) {base : Location}
    (same : (root.join left).place base = (root.join right).place base) : left.Respells right := by
  refine ⟨alike.isAbsolute, ?_⟩
  obtain ⟨leftNames, leftMoves⟩ := exists_moves_eq alike.left
  obtain ⟨rightNames, rightMoves⟩ := exists_moves_eq alike.right
  rw [leftMoves, rightMoves]
  cases absolute : left.isAbsolute with
  | true =>
      have alsoAbsolute := alike.isAbsolute.symm.trans absolute
      rw [join, if_pos absolute, join, if_pos alsoAbsolute, place, place, leftMoves, rightMoves, foldl_moveFrom_names,
        foldl_moveFrom_names, FileTree.origin, if_pos absolute, FileTree.origin, if_pos alsoAbsolute] at same
      rw [List.append_cancel_left same]
  | false =>
      have relative := alike.isAbsolute.symm.trans absolute
      rw [place, place, moves_join root absolute, moves_join root relative, List.foldl_append, List.foldl_append,
        leftMoves, rightMoves, foldl_moveFrom_names, foldl_moveFrom_names, FileTree.origin, FileTree.origin,
        isAbsolute_join_of_relative root absolute, isAbsolute_join_of_relative root relative] at same
      rw [List.append_cancel_left same]

end Path

end Listfile
