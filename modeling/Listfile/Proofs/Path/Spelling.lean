import Listfile.Path.Bytes
import Listfile.Proofs.Path.Separators

set_option autoImplicit false

/-! Spellings of a path. Segments that are empty or `.` lead nowhere, so paths that differ by such segments only are the
same path: whatever is joined to them or below them is written alike. -/

namespace Listfile

/-- A name that an entry of a directory can have: it leads into the directory and was read from its bytes. -/
structure Name.IsProper (name : Name) : Prop where
  plain : name.IsPlain
  noSeparator : .separator ∉ name
  noNul : .char '\x00' ∉ name
  fromBytes : PathUnit.ofBytes name.bytes = name

instance (name : Name) : Decidable name.IsProper :=
  decidable_of_iff
    (name.IsPlain ∧ .separator ∉ name ∧ .char '\x00' ∉ name ∧ PathUnit.ofBytes name.bytes = name)
    ⟨fun premise => ⟨premise.1, premise.2.1, premise.2.2.1, premise.2.2.2⟩,
      fun proper => ⟨proper.plain, proper.noSeparator, proper.noNul, proper.fromBytes⟩⟩

namespace Path

/-- The path with a slash at its end, behind which other paths can be written. Nothing stands before an empty path. -/
def slashed (path : Path) : Path :=
  if path.units = [] ∨ path.units.getLast? = some .separator then path else ⟨path.units ++ [.separator]⟩

theorem units_join (base : Path) {path : Path} (relative : path.isAbsolute = false) :
    (base.join path).units = base.slashed.units ++ path.units := by
  rw [join, if_neg (Bool.eq_false_iff.1 relative), slashed]
  split
  · rfl
  · exact List.append_cons base.units _ path.units

theorem slashed_of_append (front : List PathUnit) {path : Path} (filled : path.units ≠ []) :
    (⟨front ++ path.units⟩ : Path).slashed.units = front ++ path.slashed.units := by
  have sameEnd : (front ++ path.units).getLast? = path.units.getLast? := List.getLast?_append_of_ne_nil front filled
  have notEmpty : front ++ path.units ≠ [] := List.append_ne_nil_of_right_ne_nil front filled
  by_cases ended : path.units.getLast? = some .separator
  · rw [slashed, if_pos (Or.inr (sameEnd.trans ended)), slashed, if_pos (Or.inr ended)]
  · rw [slashed, if_neg (not_or.2 ⟨notEmpty, fun isSeparator => ended (sameEnd.symm.trans isSeparator)⟩), slashed,
      if_neg (not_or.2 ⟨filled, ended⟩)]
    exact List.append_assoc _ _ _

theorem slashed_slashed (path : Path) : path.slashed.slashed = path.slashed := by
  by_cases complete : path.units = [] ∨ path.units.getLast? = some .separator
  · have stays : path.slashed = path := if_pos complete
    rw [stays, stays]
  · rw [slashed, slashed, if_neg complete]
    exact if_pos (Or.inr List.getLast?_concat)

theorem slashed_join (base : Path) {path : Path} (relative : path.isAbsolute = false) :
    (base.join path).slashed.units = base.slashed.units ++ path.slashed.units := by
  have joined : base.join path = ⟨base.slashed.units ++ path.units⟩ := congrArg Path.mk (units_join base relative)
  rw [joined]
  by_cases empty : path.units = []
  · have stays : path.slashed = path := if_pos (Or.inl empty)
    rw [stays, empty, List.append_nil]
    exact congrArg Path.units base.slashed_slashed
  · exact slashed_of_append _ empty

theorem isAbsolute_join_of_relative (base : Path) {path : Path} (relative : path.isAbsolute = false) :
    (base.join path).isAbsolute = base.isAbsolute := by
  by_cases empty : base.units = []
  · rw [join_of_units_eq_nil empty, relative, isAbsolute, empty]
    rfl
  · exact isAbsolute_join empty relative

theorem join_join (base middle : Path) {path : Path} (relative : path.isAbsolute = false) :
    (base.join middle).join path = base.join (middle.join path) := by
  have sameKind := isAbsolute_join_of_relative middle relative
  cases absolute : middle.isAbsolute with
  | true =>
      have replaces : base.join middle = middle := if_pos absolute
      have replacesToo : base.join (middle.join path) = middle.join path := if_pos (sameKind.trans absolute)
      rw [replaces, replacesToo]
  | false =>
      refine congrArg Path.mk (?_ : ((base.join middle).join path).units = (base.join (middle.join path)).units)
      rw [units_join _ relative, slashed_join _ absolute, units_join _ (sameKind.trans absolute), units_join _ relative,
        List.append_assoc]

/-- A path continues behind the segments of what it is joined to, but for an empty one behind a slash at the end. -/
theorem exists_segments_join {base : Path} (based : base.units ≠ []) :
    ∃ front, (base.segments = front ∨ base.segments = front ++ [[]]) ∧
      ∀ path : Path, path.isAbsolute = false → (base.join path).segments = front ++ path.segments := by
  by_cases ended : base.units.getLast? = some .separator
  · obtain ⟨before, written⟩ := List.getLast?_eq_some_iff.1 ended
    refine ⟨splitSegments before, Or.inr ?_, fun path relative => ?_⟩
    · rw [segments, written, splitSegments_append_separator]
      rfl
    · rw [join, if_neg (Bool.eq_false_iff.1 relative), if_pos (Or.inr ended), segments, written, List.append_assoc,
        List.singleton_append, splitSegments_append_separator]
      rfl
  · refine ⟨base.segments, Or.inl rfl, fun path relative => ?_⟩
    rw [join, if_neg (Bool.eq_false_iff.1 relative), if_neg (not_or.2 ⟨based, ended⟩), segments,
      splitSegments_append_separator]
    rfl

theorem units_eq_nil_of_join {root path : Path} (empty : (root.join path).units = []) : root.units = [] := by
  cases absolute : path.isAbsolute with
  | true =>
      rw [join, if_pos absolute] at empty
      rw [isAbsolute, empty] at absolute
      cases absolute
  | false =>
      obtain ⟨rest, joined⟩ := exists_units_join root absolute
      rw [joined] at empty
      exact (List.append_eq_nil_iff.1 empty).1

/-- What is left of the segments of a path without the empty ones and without `.`. -/
def moves (path : Path) : List Component := path.segments.filterMap Component.ofSegment?

theorem components_eq (path : Path) : path.components = path.leadingComponents ++ path.moves := rfl

theorem components_of_isAbsolute {path : Path} (absolute : path.isAbsolute = true) :
    path.components = .root :: path.moves := by
  rw [components_eq, leadingComponents, if_pos absolute]
  rfl

theorem moves_join (base : Path) {path : Path} (relative : path.isAbsolute = false) :
    (base.join path).moves = base.moves ++ path.moves := by
  by_cases empty : base.units = []
  · rw [join_of_units_eq_nil empty, moves, moves, segments, segments, empty]
    rfl
  · obtain ⟨front, ended, joined⟩ := exists_segments_join empty
    have nothing : [([] : Name)].filterMap Component.ofSegment? = [] := rfl
    rw [moves, joined path relative, List.filterMap_append, moves, moves]
    rcases ended with same | extra
    · rw [same]
    · rw [extra, List.filterMap_append, nothing, List.append_nil]

theorem leadingComponents_join {base path : Path} (based : base.units ≠ []) (relative : path.isAbsolute = false) :
    (base.join path).leadingComponents = base.leadingComponents := by
  have joined := components_join based relative
  rw [components_eq, components_eq, moves_join base relative, List.append_assoc] at joined
  exact List.append_cancel_right joined

def descend (start : Path) (names : List Name) : Path := names.foldl child start

@[simp] theorem descend_nil (start : Path) : start.descend [] = start := rfl

@[simp] theorem descend_cons (start : Path) (name : Name) (names : List Name) :
    start.descend (name :: names) = (start.child name).descend names := rfl

theorem descend_append (start : Path) (upper lower : List Name) :
    start.descend (upper ++ lower) = (start.descend upper).descend lower := List.foldl_append

theorem isAbsolute_ofName {name : Name} (noSeparator : .separator ∉ name) : (ofName name).isAbsolute = false := by
  rw [Bool.eq_false_iff]
  intro absolute
  rw [isAbsolute, beq_iff_eq] at absolute
  exact noSeparator (List.mem_of_mem_head? absolute)

theorem join_descend (base path : Path) {names : List Name} (proper : ∀ name ∈ names, name.IsProper) :
    (base.join path).descend names = base.join (path.descend names) := by
  induction names generalizing path with
  | nil => rfl
  | cons name names ih =>
      rw [List.forall_mem_cons] at proper
      rw [descend_cons, child, join_join _ _ (isAbsolute_ofName proper.1.noSeparator), ih _ proper.2]
      rfl

theorem moves_child (start : Path) {name : Name} (proper : name.IsProper) :
    (start.child name).moves = start.moves ++ [.normal name] := by
  have single : (ofName name).moves = [.normal name] := by
    rw [moves, segments, ofName, splitSegments_of_no_separator proper.noSeparator, List.filterMap_cons,
      Component.ofSegment?_of_isPlain proper.plain, List.filterMap_nil]
  rw [child, moves_join start (isAbsolute_ofName proper.noSeparator), single]

theorem moves_descend (start : Path) {names : List Name} (proper : ∀ name ∈ names, name.IsProper) :
    (start.descend names).moves = start.moves ++ names.map .normal := by
  induction names generalizing start with
  | nil => rw [descend_nil, List.map_nil, List.append_nil]
  | cons name names ih =>
      rw [List.forall_mem_cons] at proper
      rw [descend_cons, ih _ proper.2, moves_child start proper.1, List.map_cons, List.append_assoc,
        List.singleton_append]

theorem isAbsolute_descend (start : Path) {names : List Name} (proper : ∀ name ∈ names, name.IsProper) :
    (start.descend names).isAbsolute = start.isAbsolute := by
  induction names generalizing start with
  | nil => rfl
  | cons name names ih =>
      rw [List.forall_mem_cons] at proper
      rw [descend_cons, ih _ proper.2, child,
        isAbsolute_join_of_relative start (isAbsolute_ofName proper.1.noSeparator)]

theorem leadingComponents_descend {start : Path} (filled : start.units ≠ []) {names : List Name}
    (proper : ∀ name ∈ names, name.IsProper) :
    (start.descend names).leadingComponents = start.leadingComponents := by
  induction names generalizing start with
  | nil => rfl
  | cons name names ih =>
      rw [List.forall_mem_cons] at proper
      have relative := isAbsolute_ofName proper.1.noSeparator
      have filledChild : (start.child name).units ≠ [] := units_join_ne_nil filled relative
      rw [descend_cons, ih filledChild proper.2, child, leadingComponents_join filled relative]

theorem leadingComponents_join_descend {base left right : Path} (based : base.units ≠ [])
    (sameKind : left.isAbsolute = right.isAbsolute) {leftNames rightNames : List Name}
    (leftProper : ∀ name ∈ leftNames, name.IsProper) (rightProper : ∀ name ∈ rightNames, name.IsProper) :
    ((base.join left).descend leftNames).leadingComponents =
      ((base.join right).descend rightNames).leadingComponents := by
  cases absolute : left.isAbsolute with
  | true =>
      have alsoAbsolute := sameKind.symm.trans absolute
      rw [join, if_pos absolute, join, if_pos alsoAbsolute, leadingComponents,
        if_pos ((isAbsolute_descend left leftProper).trans absolute), leadingComponents,
        if_pos ((isAbsolute_descend right rightProper).trans alsoAbsolute)]
  | false =>
      have relative := sameKind.symm.trans absolute
      rw [leadingComponents_descend (units_join_ne_nil based absolute) leftProper,
        leadingComponents_descend (units_join_ne_nil based relative) rightProper,
        leadingComponents_join based absolute, leadingComponents_join based relative]

/-- Paths that differ by empty segments and by `.` segments only. -/
structure Respells (left right : Path) : Prop where
  isAbsolute : left.isAbsolute = right.isAbsolute
  moves : left.moves = right.moves

instance (left right : Path) : Decidable (left.Respells right) :=
  decidable_of_iff (left.isAbsolute = right.isAbsolute ∧ left.moves = right.moves)
    ⟨fun premise => ⟨premise.1, premise.2⟩, fun respells => ⟨respells.isAbsolute, respells.moves⟩⟩

namespace Respells

variable {left right : Path} (respells : left.Respells right)

include respells

theorem join (base : Path) : (base.join left).Respells (base.join right) := by
  cases absolute : left.isAbsolute with
  | true =>
      rw [Path.join, if_pos absolute, Path.join, if_pos (respells.isAbsolute ▸ absolute)]
      exact respells
  | false =>
      have relative : right.isAbsolute = false := respells.isAbsolute ▸ absolute
      exact ⟨(isAbsolute_join_of_relative base absolute).trans (isAbsolute_join_of_relative base relative).symm,
        by rw [moves_join base absolute, moves_join base relative, respells.moves]⟩

theorem descend {names : List Name}
    (proper : ∀ name ∈ names, name.IsProper) : (left.descend names).Respells (right.descend names) where
  isAbsolute := by rw [isAbsolute_descend left proper, isAbsolute_descend right proper, respells.isAbsolute]
  moves := by rw [moves_descend left proper, moves_descend right proper, respells.moves]

/-- What is written does not depend on the spelling, unless only one path has a `.` in front that counts. -/
theorem scriptPath_eq {root : Path}
    (fronts : left.leadingComponents = right.leadingComponents ∨ root.units = []) :
    scriptPath left root = scriptPath right root := by
  rcases fronts with sameFront | noRoot
  · have sameComponents : left.components = right.components := by
      rw [components, components, sameFront]
      exact congrArg (right.leadingComponents ++ ·) respells.moves
    rw [scriptPath, scriptPath, componentsAfter?, componentsAfter?, sameComponents]
  · refine scriptPath_eq_of_writtenUnder ?_
    have whole : ∀ path : Path, path.writtenUnder root = Component.written path.components := fun path =>
      writtenUnder_of_components (by rw [components_of_units_eq_nil noRoot, List.nil_append])
    rw [whole, whole]
    cases absolute : left.isAbsolute with
    | true =>
        have alsoAbsolute : right.isAbsolute = true := respells.isAbsolute ▸ absolute
        rw [components_of_isAbsolute absolute, components_of_isAbsolute alsoAbsolute, respells.moves]
    | false =>
        have relative : right.isAbsolute = false := respells.isAbsolute ▸ absolute
        rw [written_components absolute, written_components relative]
        exact congrArg (List.foldl Component.appendTo []) respells.moves

theorem scriptPath_join_eq (root : Path) : scriptPath (root.join left) root = scriptPath (root.join right) root := by
  refine (respells.join root).scriptPath_eq ?_
  by_cases empty : root.units = []
  · exact Or.inr empty
  · exact Or.inl (leadingComponents_join_descend empty respells.isAbsolute (List.forall_mem_nil _)
      (List.forall_mem_nil _))

end Respells

end Path

end Listfile
