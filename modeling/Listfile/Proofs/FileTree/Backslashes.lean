import Listfile.FileTree.Walk
import Listfile.Proofs.FileTree.Lookup

set_option autoImplicit false

/-! Paths with backslashes. A backslash is a character of a name like any other, so in a tree that has no such name a
path with a backslash leads nowhere, and a walk from there meets nothing. -/

namespace Listfile

theorem exists_mem_splitSegments {unit : PathUnit} (inside : unit ≠ .separator) {units : List PathUnit}
    (member : unit ∈ units) : ∃ segment ∈ splitSegments units, unit ∈ segment := by
  induction units with
  | nil => cases member
  | cons first units ih =>
      by_cases separates : first = .separator
      · have later : unit ∈ units :=
          (List.mem_cons.1 member).resolve_left fun same => inside (same.trans separates)
        obtain ⟨segment, inSegments, inSegment⟩ := ih later
        rw [splitSegments, if_pos separates]
        exact ⟨segment, List.mem_cons_of_mem _ inSegments, inSegment⟩
      · obtain ⟨segment, segments, split⟩ := List.exists_cons_of_ne_nil (splitSegments_ne_nil units)
        rw [split] at ih
        rw [splitSegments_cons separates split]
        rcases List.mem_cons.1 member with here | later
        · exact ⟨first :: segment, List.mem_cons_self, here ▸ List.mem_cons_self⟩
        · obtain ⟨other, inSegments, inSegment⟩ := ih later
          rcases List.mem_cons.1 inSegments with same | others
          · exact ⟨first :: segment, List.mem_cons_self, List.mem_cons_of_mem _ (same ▸ inSegment)⟩
          · exact ⟨other, List.mem_cons_of_mem _ others, inSegment⟩

def PathUnit.backslash : PathUnit := .char '\\'

namespace FileTree

def NoBackslash (tree : FileTree) : Prop := ∀ entry ∈ tree.entries, ∀ name ∈ entry.1, .backslash ∉ name

instance (tree : FileTree) : Decidable tree.NoBackslash :=
  inferInstanceAs (Decidable (∀ entry ∈ tree.entries, ∀ name ∈ entry.1, .backslash ∉ name))

namespace NoBackslash

variable {tree : FileTree} (noBackslash : tree.NoBackslash)

include noBackslash

theorem entryAt_eq_none {here : Location} {segment : Name} (slanted : .backslash ∈ segment) :
    tree.entryAt (here ++ [segment]) = none := by
  have below : here ++ [segment] ≠ [] := List.concat_ne_nil segment here
  rw [entryAt, if_neg below, List.lookup_eq_none_iff]
  intro entry member
  rw [bne_iff_ne]
  intro same
  refine noBackslash entry member segment ?_ slanted
  rw [← same]
  exact List.mem_append_right _ List.mem_cons_self

theorem step_eq_absent {here : Location} {segment : Name} {result : Step} (slanted : .backslash ∈ segment)
    (stepped : tree.step here segment = .ok result) : result = .absent (here ++ [segment]) := by
  have moves : ¬(segment = [] ∨ segment = Name.current) := by
    rintro (empty | isCurrent)
    · rw [empty] at slanted
      cases slanted
    · rw [isCurrent] at slanted
      exact absurd slanted (by decide)
  have notParent : segment ≠ Name.parent := by
    intro isParent
    rw [isParent] at slanted
    exact absurd slanted (by decide)
  have stepped := ((step_eq_ok_iff tree here segment result).1 stepped).2
  rw [stepFrom, if_neg moves, if_neg notParent, noBackslash.entryAt_eq_none slanted] at stepped
  split at stepped
  · cases stepped
  · exact (Except.ok.inj stepped).symm

/-- A lookup that arrives has not come across a backslash. -/
theorem not_mem_of_leads {budget : Nat} {here : Location} {segments : List Name} {arrival : Arrival}
    (leads : tree.Leads budget here segments arrival) : ∀ segment ∈ segments, .backslash ∉ segment := by
  induction leads with
  | done => exact fun segment member => absurd member List.not_mem_nil
  | through stepped _later ih =>
      refine List.forall_mem_cons.2 ⟨?_, ih⟩
      intro slanted
      cases noBackslash.step_eq_absent slanted stepped
  | around stepped _later ih =>
      refine List.forall_mem_cons.2 ⟨?_, fun segment member => ih segment (List.mem_append_right _ member)⟩
      intro slanted
      cases noBackslash.step_eq_absent slanted stepped

theorem walk_eq_nil {start : Path} (slanted : .backslash ∈ start.units) : tree.walk start = [] := by
  rw [walk]
  cases arrived : tree.lookup start with
  | error fault => rfl
  | ok arrival =>
      obtain ⟨segment, inSegments, inSegment⟩ := exists_mem_splitSegments (by decide) slanted
      have leads := ((lookup_eq_ok_iff tree start arrival).1 arrived).2
      exact absurd inSegment (noBackslash.not_mem_of_leads leads segment inSegments)

end NoBackslash

end FileTree

end Listfile
