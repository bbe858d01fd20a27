import Listfile.Path.Components
import Mathlib.Data.List.Basic

set_option autoImplicit false

/-! The segments of joined paths, and the last of them. The pieces of two texts around a separator are the pieces of
the one and then those of the other, so a name that is joined to a path is its last segment and its file name. -/

namespace Listfile

theorem splitSegments_ne_nil (units : List PathUnit) : splitSegments units ≠ [] := by
  cases units with
  | nil => exact List.cons_ne_nil _ _
  | cons unit units =>
      rw [splitSegments]
      split
      · exact List.cons_ne_nil _ _
      · split <;> exact List.cons_ne_nil _ _

theorem splitSegments_cons {unit : PathUnit} (inside : unit ≠ .separator) {units : List PathUnit} {first : Name}
    {others : List Name} (split : splitSegments units = first :: others) :
    splitSegments (unit :: units) = (unit :: first) :: others := by
  rw [splitSegments, if_neg inside, split]

theorem splitSegments_append_separator (before after : List PathUnit) :
    splitSegments (before ++ .separator :: after) = splitSegments before ++ splitSegments after := by
  induction before with
  | nil => exact if_pos rfl
  | cons unit before ih =>
      by_cases separates : unit = .separator
      · rw [List.cons_append, splitSegments, if_pos separates, ih, splitSegments, if_pos separates, List.cons_append]
      · obtain ⟨first, others, split⟩ := List.exists_cons_of_ne_nil (splitSegments_ne_nil before)
        rw [split] at ih
        rw [List.cons_append, splitSegments_cons separates ih, splitSegments_cons separates split]
        rfl

theorem splitSegments_of_no_separator {name : Name} (inside : .separator ∉ name) : splitSegments name = [name] := by
  induction name with
  | nil => rfl
  | cons unit name ih =>
      rw [List.mem_cons, not_or] at inside
      exact splitSegments_cons (Ne.symm inside.1) (ih inside.2)

theorem mem_of_mem_splitSegments {units : List PathUnit} {segment : Name} (member : segment ∈ splitSegments units) :
    ∀ unit ∈ segment, unit ∈ units ∧ unit ≠ .separator := by
  induction units generalizing segment with
  | nil =>
      rw [List.mem_singleton.1 member]
      exact List.forall_mem_nil _
  | cons first units ih =>
      by_cases separates : first = .separator
      · rw [splitSegments, if_pos separates] at member
        rcases List.mem_cons.1 member with empty | later
        · rw [empty]
          exact List.forall_mem_nil _
        · exact fun unit inSegment => ⟨List.mem_cons_of_mem _ (ih later unit inSegment).1, (ih later unit inSegment).2⟩
      · obtain ⟨head, others, split⟩ := List.exists_cons_of_ne_nil (splitSegments_ne_nil units)
        rw [splitSegments_cons separates split] at member
        rcases List.mem_cons.1 member with isFirst | later
        · rw [isFirst, List.forall_mem_cons]
          refine ⟨⟨List.mem_cons_self, separates⟩, fun unit inHead => ?_⟩
          have inUnits := ih (split ▸ List.mem_cons_self) unit inHead
          exact ⟨List.mem_cons_of_mem _ inUnits.1, inUnits.2⟩
        · have inUnits := ih (split ▸ List.mem_cons_of_mem _ later)
          exact fun unit inSegment => ⟨List.mem_cons_of_mem _ (inUnits unit inSegment).1, (inUnits unit inSegment).2⟩

/-- A name that leads into a directory, and neither stays nor goes up. -/
def Name.IsPlain (name : Name) : Prop := name ≠ [] ∧ name ≠ Name.current ∧ name ≠ Name.parent

instance (name : Name) : Decidable name.IsPlain :=
  inferInstanceAs (Decidable (name ≠ [] ∧ name ≠ Name.current ∧ name ≠ Name.parent))

theorem Component.ofSegment?_of_isPlain {name : Name} (plain : name.IsPlain) :
    Component.ofSegment? name = some (.normal name) := by
  rw [Component.ofSegment?, if_neg (not_or.2 ⟨plain.1, plain.2.1⟩), if_neg plain.2.2]

namespace Path

theorem exists_segments_eq (path : Path) : ∃ front last, path.segments = front ++ [last] :=
  (List.eq_nil_or_concat' path.segments).resolve_left (splitSegments_ne_nil path.units)

theorem segments_join_ofName (base : Path) {name : Name} (inside : .separator ∉ name) :
    ∃ front, (base.join (ofName name)).segments = front ++ [name] := by
  have relative : ¬(ofName name).isAbsolute = true := by
    intro absolute
    rw [isAbsolute, beq_iff_eq] at absolute
    exact inside (List.mem_of_mem_head? absolute)
  rw [join, if_neg relative]
  split
  · rename_i noSlash
    rcases noSlash with empty | ended
    · exact ⟨[], by rw [empty]; exact splitSegments_of_no_separator inside⟩
    · obtain ⟨before, written⟩ := List.getLast?_eq_some_iff.1 ended
      refine ⟨splitSegments before, ?_⟩
      rw [segments, written, List.append_assoc, List.singleton_append, splitSegments_append_separator]
      exact congrArg (splitSegments before ++ ·) (splitSegments_of_no_separator inside)
  · refine ⟨splitSegments base.units, ?_⟩
    rw [segments, splitSegments_append_separator]
    exact congrArg (splitSegments base.units ++ ·) (splitSegments_of_no_separator inside)

theorem getLast?_components {path : Path} {front : List Name} {last : Name} {component : Component}
    (written : path.segments = front ++ [last]) (counts : Component.ofSegment? last = some component) :
    path.components.getLast? = some component := by
  have single : [last].filterMap Component.ofSegment? = [component] := by
    rw [List.filterMap_cons, counts, List.filterMap_nil]
  rw [components, written, List.filterMap_append, single, ← List.append_assoc, List.getLast?_concat]

theorem fileName?_of_segments {path : Path} {front : List Name} {name : Name} (plain : name.IsPlain)
    (written : path.segments = front ++ [name]) : path.fileName? = some name := by
  rw [fileName?, getLast?_components written (Component.ofSegment?_of_isPlain plain)]

theorem fileName?_of_segments_parent {path : Path} {front : List Name}
    (written : path.segments = front ++ [Name.parent]) : path.fileName? = none := by
  rw [fileName?, getLast?_components written rfl]

end Path

end Listfile
