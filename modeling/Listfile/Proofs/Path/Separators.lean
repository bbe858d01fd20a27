import Listfile.Path.ScriptPath
import Listfile.Proofs.Path.Segments
import Listfile.Project.Names

set_option autoImplicit false

/-! What is left of separators when a path is written into a listfile. Only slashes separate while a path is joined and
taken apart, and backslashes become slashes when its components are written. So the same text is written for both, if
nothing is left out between two separators: no piece is empty, and none is a `.`. -/

namespace Listfile

open Component (appendPiece appendTo)

/-- A text with one separator in the place of every slash and backslash. An absolute path stays as it is. -/
def turnSeparators (separator : Char) (text : String) : String :=
  if isAbsoluteEntry text then text
  else String.ofList (text.toList.map fun character =>
    if character = '/' ∨ character = '\\' then separator else character)

theorem normalizeSeparators_turnSeparators {separator : Char} (separates : separator = '/' ∨ separator = '\\')
    (text : String) : normalizeSeparators (turnSeparators separator text) = normalizeSeparators text := by
  have normal : normalizeSeparator separator = '/' := by
    rcases separates with slash | backslash
    · rw [slash]
      rfl
    · rw [backslash]
      rfl
  unfold turnSeparators
  split
  · rfl
  · rw [normalizeSeparators, normalizeSeparators, String.toList_ofList, List.map_map]
    refine congrArg String.ofList (List.map_congr_left fun character _member => ?_)
    rw [Function.comp_apply]
    split
    · rename_i isSeparator
      rw [normal]
      rcases isSeparator with slash | backslash
      · rw [slash]
        rfl
      · rw [backslash]
        rfl
    · rfl

/-- A path that can be written with either separator: something stands between two separators, and it is no `.`. -/
def IsTidy (text : String) : Prop :=
  ∀ piece ∈ (Path.ofString (normalizeSeparators text)).segments, piece ≠ [] ∧ piece ≠ Name.current

instance (text : String) : Decidable (IsTidy text) :=
  inferInstanceAs (Decidable (∀ piece ∈ (Path.ofString (normalizeSeparators text)).segments,
    piece ≠ [] ∧ piece ≠ Name.current))

def PathUnit.normalized : PathUnit → PathUnit
  | .char character => .char (normalizeSeparator character)
  | .invalid bytes => .invalid bytes

def Name.written (name : Name) : List Char := name.map fun unit => normalizeSeparator unit.shown

/-- The pieces between all separators are the pieces, between backslashes, of the pieces between slashes. -/
theorem splitSegments_normalized (units : List PathUnit) :
    splitSegments (units.map .normalized) =
      (splitSegments units).flatMap fun piece => splitSegments (piece.map .normalized) := by
  induction units with
  | nil => rfl
  | cons unit units ih =>
      by_cases isSlash : unit = .separator
      · have slashStays : PathUnit.separator.normalized = .separator := rfl
        rw [isSlash, List.map_cons, slashStays, splitSegments, if_pos rfl, splitSegments, if_pos rfl, ih]
        rfl
      · obtain ⟨first, others, split⟩ := List.exists_cons_of_ne_nil (splitSegments_ne_nil units)
        rw [splitSegments_cons isSlash split, List.flatMap_cons, List.map_cons, List.map_cons]
        rw [split, List.flatMap_cons] at ih
        by_cases isBackslash : unit.normalized = .separator
        · rw [isBackslash, splitSegments, if_pos rfl, splitSegments, if_pos rfl, ih, List.cons_append]
        · obtain ⟨inner, inners, splitInner⟩ := List.exists_cons_of_ne_nil
            (splitSegments_ne_nil (first.map PathUnit.normalized))
          rw [splitInner, List.cons_append] at ih
          rw [splitSegments_cons isBackslash ih, splitSegments_cons isBackslash splitInner, List.cons_append]

/-- A piece between slashes that has no empty piece and no `.` between its backslashes. -/
def Name.IsSolid (name : Name) : Prop :=
  ∀ piece ∈ splitSegments (name.map .normalized), piece ≠ [] ∧ piece ≠ Name.current

namespace Name.IsSolid

variable {name : Name}

theorem ne_nil (solid : name.IsSolid) : name ≠ [] := by
  intro empty
  rw [empty] at solid
  exact (solid [] (List.mem_singleton.2 rfl)).1 rfl

theorem ne_current (solid : name.IsSolid) : name ≠ Name.current := by
  intro isCurrent
  rw [isCurrent] at solid
  exact (solid Name.current (by decide)).2 rfl

theorem written_ne_nil (solid : name.IsSolid) : name.written ≠ [] := by
  rw [written, Ne, List.map_eq_nil_iff]
  exact solid.ne_nil

theorem getLast?_written (solid : name.IsSolid) : name.written.getLast? ≠ some '/' := by
  intro ended
  obtain ⟨front, unit, isLast⟩ := (List.eq_nil_or_concat' name).resolve_left solid.ne_nil
  have isSeparator : unit.normalized = .separator := by
    rw [written, isLast, List.map_append, List.map_singleton, List.getLast?_concat, Option.some.injEq] at ended
    cases unit with
    | char character => exact congrArg PathUnit.char ended
    | invalid bytes => exact absurd ended (show normalizeSeparator '\uFFFD' ≠ '/' by decide)
  have pieces : splitSegments (name.map .normalized) = splitSegments (front.map .normalized) ++ [[]] := by
    rw [isLast, List.map_append, List.map_singleton, isSeparator, splitSegments_append_separator]
    rfl
  have emptyPiece : [] ∈ splitSegments (name.map .normalized) := by
    rw [pieces]
    exact List.mem_append_right _ (List.mem_singleton.2 rfl)
  exact (solid [] emptyPiece).1 rfl

theorem component (solid : name.IsSolid) :
    ∃ component, Component.ofSegment? name = some component ∧
      ∀ before, appendTo before component = appendPiece before name.written := by
  rw [Component.ofSegment?, if_neg (not_or.2 ⟨solid.ne_nil, solid.ne_current⟩)]
  by_cases isParent : name = Name.parent
  · rw [if_pos isParent, isParent]
    exact ⟨.parent, rfl, fun _before => rfl⟩
  · rw [if_neg isParent]
    exact ⟨.normal name, rfl, fun _before => rfl⟩

end Name.IsSolid

theorem appendPiece_appendPiece {first : List Char} (filled : first ≠ []) (open_ : first.getLast? ≠ some '/')
    (before second : List Char) :
    appendPiece (appendPiece before first) second = appendPiece before (first ++ '/' :: second) := by
  have notEnded : ∀ front, (front ++ first).getLast? ≠ some '/' := by
    intro front
    rw [List.getLast?_append_of_ne_nil _ filled]
    exact open_
  have notEmpty : ∀ front, front ++ first ≠ [] := fun front empty => filled (List.append_eq_nil_iff.1 empty).2
  rw [appendPiece, appendPiece, if_neg (not_or.2 ⟨notEmpty _, notEnded _⟩), appendPiece]
  simp only [List.append_assoc, List.singleton_append]

def Path.writtenAfter (before : List Char) (path : Path) : List Char :=
  (path.segments.filterMap Component.ofSegment?).foldl appendTo before

theorem foldl_appendTo_of_solid {names : List Name} (filled : names ≠ []) (solid : ∀ name ∈ names, name.IsSolid)
    (before : List Char) :
    (names.filterMap Component.ofSegment?).foldl appendTo before =
      appendPiece before (List.intercalate ['/'] (names.map Name.written)) := by
  induction names generalizing before with
  | nil => exact absurd rfl filled
  | cons name names ih =>
      obtain ⟨solidFirst, solidOthers⟩ := List.forall_mem_cons.1 solid
      obtain ⟨component, isComponent, appended⟩ := solidFirst.component
      rw [List.filterMap_cons, isComponent, List.foldl_cons, appended]
      cases names with
      | nil => simp
      | cons second others =>
          rw [ih (List.cons_ne_nil _ _) solidOthers,
            appendPiece_appendPiece solidFirst.written_ne_nil solidFirst.getLast?_written, List.map_cons, List.map_cons,
            List.map_cons, List.intercalate_cons_cons, List.append_assoc, List.singleton_append]

theorem intercalate_cons_head (separator first : List Char) (letter : Char) (others : List (List Char)) :
    separator.intercalate ((letter :: first) :: others) = letter :: separator.intercalate (first :: others) := by
  cases others with
  | nil => simp
  | cons second others => simp [List.intercalate_cons_cons]

theorem intercalate_written (units : List PathUnit) :
    List.intercalate ['/'] ((splitSegments units).map Name.written) = Name.written units := by
  induction units with
  | nil => rfl
  | cons unit units ih =>
      obtain ⟨first, others, split⟩ := List.exists_cons_of_ne_nil (splitSegments_ne_nil units)
      by_cases isSlash : unit = .separator
      · rw [split] at ih
        rw [isSlash, splitSegments, if_pos rfl, split, List.map_cons, List.map_cons, List.intercalate_cons_cons,
          ← List.map_cons, ih]
        rfl
      · rw [split, List.map_cons] at ih
        rw [splitSegments_cons isSlash split, List.map_cons, Name.written, List.map_cons, intercalate_cons_head,
          ← Name.written, ih]
        rfl

theorem writtenAfter_of_isTidy {text : String} (tidy : IsTidy text) (before : List Char) :
    (Path.ofString text).writtenAfter before = appendPiece before (normalizeSeparators text).toList := by
  have normalizedUnits : (Path.ofString (normalizeSeparators text)).units =
      (Path.ofString text).units.map .normalized := by
    simp [Path.ofString, normalizeSeparators, PathUnit.normalized, Function.comp_def]
  have solid : ∀ name ∈ (Path.ofString text).segments, name.IsSolid := by
    intro name member piece inName
    refine tidy piece ?_
    rw [Path.segments, normalizedUnits, splitSegments_normalized]
    exact List.mem_flatMap.2 ⟨name, member, inName⟩
  have filled : (Path.ofString text).segments ≠ [] := splitSegments_ne_nil _
  rw [Path.writtenAfter, foldl_appendTo_of_solid filled solid, Path.segments, intercalate_written]
  simp [Path.ofString, Name.written, normalizeSeparators, PathUnit.shown, Function.comp_def]

/-! ### Joined paths -/

namespace Path

theorem isAbsolute_ofString (text : String) : (ofString text).isAbsolute = isAbsoluteEntry text := by
  unfold isAbsolute isAbsoluteEntry ofString
  cases text.toList with
  | nil => rfl
  | cons first rest => simp [PathUnit.separator]

theorem leadingComponents_eq {left right : Path} (units : left.units.head? = right.units.head?)
    (segments : left.segments.head? = right.segments.head?) : left.leadingComponents = right.leadingComponents := by
  rw [leadingComponents, leadingComponents, isAbsolute, isAbsolute, units, segments]

theorem components_join {base path : Path} (based : base.units ≠ []) (relative : path.isAbsolute = false) :
    (base.join path).components = base.components ++ path.segments.filterMap Component.ofSegment? := by
  have sameHead : ∀ more, (base.units ++ more).head? = base.units.head? :=
    fun more => List.head?_append_of_ne_nil _ based
  have sameFirst : ∀ units more, (splitSegments units ++ more).head? = (splitSegments units).head? :=
    fun units _more => List.head?_append_of_ne_nil _ (splitSegments_ne_nil units)
  unfold join
  rw [if_neg (Bool.eq_false_iff.1 relative)]
  split
  · rename_i noSlash
    obtain ⟨before, written⟩ := List.getLast?_eq_some_iff.1 (noSlash.resolve_left based)
    have joined : splitSegments (base.units ++ path.units) = splitSegments before ++ path.segments := by
      rw [written, List.append_assoc, List.singleton_append, splitSegments_append_separator]
      rfl
    have alone : base.segments = splitSegments before ++ [[]] := by
      rw [segments, written, splitSegments_append_separator]
      rfl
    have sameSegment : (splitSegments (base.units ++ path.units)).head? = base.segments.head? := by
      rw [joined, alone, sameFirst, sameFirst]
    have nothing : [([] : Name)].filterMap Component.ofSegment? = [] := rfl
    rw [components, components, leadingComponents_eq (sameHead _) sameSegment, segments, joined, alone,
      List.filterMap_append, List.filterMap_append, nothing, List.append_nil, List.append_assoc]
  · have joined : splitSegments (base.units ++ .separator :: path.units) = base.segments ++ path.segments :=
      splitSegments_append_separator _ _
    have sameSegment : (splitSegments (base.units ++ .separator :: path.units)).head? = base.segments.head? := by
      rw [joined]
      exact sameFirst base.units _
    rw [components, components, leadingComponents_eq (sameHead _) sameSegment, segments, joined,
      List.filterMap_append, List.append_assoc]

theorem join_of_units_eq_nil {base : Path} (empty : base.units = []) (path : Path) : base.join path = path := by
  unfold join
  split
  · rfl
  · rw [if_pos (Or.inl empty), empty]
    rfl

theorem exists_units_join (base : Path) {path : Path} (relative : path.isAbsolute = false) :
    ∃ rest, (base.join path).units = base.units ++ rest := by
  unfold join
  rw [if_neg (Bool.eq_false_iff.1 relative)]
  split
  · exact ⟨_, rfl⟩
  · exact ⟨_, rfl⟩

theorem units_join_ne_nil {base path : Path} (based : base.units ≠ []) (relative : path.isAbsolute = false) :
    (base.join path).units ≠ [] := by
  obtain ⟨rest, joined⟩ := exists_units_join base relative
  rw [joined]
  exact fun empty => based (List.append_eq_nil_iff.1 empty).1

theorem isAbsolute_join {base path : Path} (based : base.units ≠ []) (relative : path.isAbsolute = false) :
    (base.join path).isAbsolute = base.isAbsolute := by
  obtain ⟨rest, joined⟩ := exists_units_join base relative
  rw [isAbsolute, isAbsolute, joined, List.head?_append_of_ne_nil _ based]

theorem components_of_units_eq_nil {path : Path} (empty : path.units = []) : path.components = [] := by
  obtain ⟨units⟩ := path
  cases empty
  rfl

def writtenUnder (path root : Path) : List Char :=
  Component.written ((path.componentsAfter? root).getD path.components)

theorem scriptPath_eq_of_writtenUnder {root path other : Path}
    (same : path.writtenUnder root = other.writtenUnder root) : scriptPath path root = scriptPath other root := by
  have written : ∀ any : Path, scriptPath any root =
      if any.writtenUnder root = [] then "." else String.ofList (any.writtenUnder root) := fun _any => rfl
  rw [written, written, same]

theorem writtenUnder_of_components {path root : Path} {rest : List Component}
    (under : path.components = root.components ++ rest) : path.writtenUnder root = Component.written rest := by
  rw [writtenUnder, componentsAfter?, List.isPrefixOf?_eq_some_iff_append_eq.2 under.symm, Option.getD_some]

theorem written_components {path : Path} (relative : path.isAbsolute = false) :
    Component.written path.components = path.writtenAfter [] := by
  rw [components, leadingComponents, if_neg (Bool.eq_false_iff.1 relative), Component.written, List.foldl_append]
  split <;> rfl

theorem writtenUnder_join {root path : Path} (relative : path.isAbsolute = false) :
    (root.join path).writtenUnder root = path.writtenAfter [] := by
  by_cases atNothing : root.units = []
  · rw [join_of_units_eq_nil atNothing, ← written_components relative]
    exact writtenUnder_of_components (by rw [components_of_units_eq_nil atNothing, List.nil_append])
  · exact writtenUnder_of_components (components_join atNothing relative)

theorem writtenUnder_join_join {root directory path : Path} (directoryRelative : directory.isAbsolute = false)
    (relative : path.isAbsolute = false) :
    ((root.join directory).join path).writtenUnder root = path.writtenAfter (directory.writtenAfter []) := by
  by_cases atNothing : root.units = []
  · have noComponents := components_of_units_eq_nil atNothing
    rw [join_of_units_eq_nil atNothing]
    by_cases alsoNothing : directory.units = []
    · have nothingWritten : directory.writtenAfter [] = [] := by
        rw [← written_components directoryRelative, components_of_units_eq_nil alsoNothing]
        rfl
      rw [join_of_units_eq_nil alsoNothing, nothingWritten, ← written_components relative]
      exact writtenUnder_of_components (by rw [noComponents, List.nil_append])
    · rw [← written_components directoryRelative, writtenAfter, Component.written, ← List.foldl_append,
        ← components_join alsoNothing relative]
      exact writtenUnder_of_components (by rw [noComponents, List.nil_append])
  · rw [writtenAfter, writtenAfter, ← List.foldl_append]
    refine writtenUnder_of_components ?_
    rw [components_join (units_join_ne_nil atNothing directoryRelative) relative,
      components_join atNothing directoryRelative, List.append_assoc]

theorem root_not_mem_components {path : Path} (relative : path.isAbsolute = false) : .root ∉ path.components := by
  rw [components, leadingComponents, if_neg (Bool.eq_false_iff.1 relative), List.mem_append, not_or, List.mem_filterMap]
  constructor
  · split <;> decide
  · intro premise
    obtain ⟨segment, _member, isRoot⟩ := premise
    unfold Component.ofSegment? at isRoot
    split at isRoot
    · cases isRoot
    · split at isRoot <;> cases isRoot

/-- A relative root is no beginning of an absolute path, unless it is empty. -/
theorem writtenUnder_of_isAbsolute {path root : Path} (absolute : path.isAbsolute = true)
    (relative : root.isAbsolute = false) : path.writtenUnder root = Component.written path.components := by
  have begins : path.components = .root :: path.segments.filterMap Component.ofSegment? := by
    rw [components, leadingComponents, if_pos absolute]
    rfl
  have noRoot := root_not_mem_components relative
  rw [writtenUnder, componentsAfter?, begins]
  cases rootComponents : root.components with
  | nil => rfl
  | cons first others =>
      rw [rootComponents, List.mem_cons, not_or] at noRoot
      have different : (first == Component.root) = false := beq_eq_false_iff_ne.2 (Ne.symm noRoot.1)
      simp [List.isPrefixOf?, different]

theorem writtenUnder_join_of_isAbsolute {root directory path : Path} (absolute : directory.isAbsolute = true)
    (rootRelative : root.isAbsolute = false) (relative : path.isAbsolute = false) :
    ((root.join directory).join path).writtenUnder root =
      path.writtenAfter (Component.written directory.components) := by
  have based : directory.units ≠ [] := by
    intro empty
    rw [isAbsolute, empty] at absolute
    cases absolute
  have joined : root.join directory = directory := if_pos absolute
  have joinedAbsolute : (directory.join path).isAbsolute = true := (isAbsolute_join based relative).trans absolute
  rw [joined, writtenUnder_of_isAbsolute joinedAbsolute rootRelative, components_join based relative, writtenAfter,
    Component.written, Component.written, List.foldl_append]

end Path

/-- A path that is left alone when separators are turned, or that can be written with either. -/
def IsTurnable (separator : Char) (text : String) : Prop := turnSeparators separator text = text ∨ IsTidy text

instance (separator : Char) (text : String) : Decidable (IsTurnable separator text) :=
  inferInstanceAs (Decidable (turnSeparators separator text = text ∨ IsTidy text))

variable {separator : Char} {text : String}

theorem isAbsoluteEntry_of_isTidy (tidy : IsTidy text) : isAbsoluteEntry text = false := by
  rw [Bool.eq_false_iff]
  intro absolute
  obtain ⟨rest, begins⟩ := List.head?_eq_some_iff.1 (beq_iff_eq.1 absolute)
  have emptyPiece : [] ∈ (Path.ofString (normalizeSeparators text)).segments := by
    rw [normalizeSeparators, begins, Path.segments, Path.ofString, String.toList_ofList]
    exact List.mem_cons_self
  exact (tidy [] emptyPiece).1 rfl

theorem IsTidy.turnSeparators (separates : separator = '/' ∨ separator = '\\') (tidy : IsTidy text) :
    IsTidy (turnSeparators separator text) := by
  rw [IsTidy, normalizeSeparators_turnSeparators separates]
  exact tidy

namespace IsTurnable

theorem isAbsoluteEntry_eq (separates : separator = '/' ∨ separator = '\\') (turnable : IsTurnable separator text) :
    isAbsoluteEntry (turnSeparators separator text) = isAbsoluteEntry text := by
  rcases turnable with same | tidy
  · rw [same]
  · rw [isAbsoluteEntry_of_isTidy tidy, isAbsoluteEntry_of_isTidy (tidy.turnSeparators separates)]

theorem writtenAfter_eq (separates : separator = '/' ∨ separator = '\\') (turnable : IsTurnable separator text)
    (before : List Char) :
    (Path.ofString (turnSeparators separator text)).writtenAfter before = (Path.ofString text).writtenAfter before := by
  rcases turnable with same | tidy
  · rw [same]
  · rw [writtenAfter_of_isTidy tidy, writtenAfter_of_isTidy (tidy.turnSeparators separates),
      normalizeSeparators_turnSeparators separates]

end IsTurnable

theorem scriptPath_turnSeparators (separates : separator = '/' ∨ separator = '\\')
    (turnable : IsTurnable separator text) (root : Path) :
    scriptPath (root.join (Path.ofString (turnSeparators separator text))) root =
      scriptPath (root.join (Path.ofString text)) root := by
  cases kind : isAbsoluteEntry text with
  | true =>
      have unturned : turnSeparators separator text = text := if_pos kind
      rw [unturned]
  | false =>
      have relative := (Path.isAbsolute_ofString text).trans kind
      have turnedRelative :=
        (Path.isAbsolute_ofString _).trans ((turnable.isAbsoluteEntry_eq separates).trans kind)
      refine Path.scriptPath_eq_of_writtenUnder ?_
      rw [Path.writtenUnder_join turnedRelative, Path.writtenUnder_join relative, turnable.writtenAfter_eq separates]

/-- A path below a directory is written as before when the separators of both are turned. -/
theorem scriptPath_join_turnSeparators (separates : separator = '/' ∨ separator = '\\') {root : Path}
    {directory : String}
    (usable : isAbsoluteEntry directory = false ∨ root.isAbsolute = false)
    (directoryTurnable : IsTurnable separator directory) (turnable : IsTurnable separator text) :
    scriptPath ((root.join (Path.ofString (turnSeparators separator directory))).join
        (Path.ofString (turnSeparators separator text))) root =
      scriptPath ((root.join (Path.ofString directory)).join (Path.ofString text)) root := by
  have sameKind := turnable.isAbsoluteEntry_eq separates
  have sameDirectoryKind := directoryTurnable.isAbsoluteEntry_eq separates
  cases kind : isAbsoluteEntry text with
  | true =>
      have unturned : turnSeparators separator text = text := if_pos kind
      have absolute : (Path.ofString text).isAbsolute = true := (Path.isAbsolute_ofString text).trans kind
      rw [unturned, Path.join, if_pos absolute, Path.join, if_pos absolute]
  | false =>
      have relative : (Path.ofString text).isAbsolute = false := (Path.isAbsolute_ofString text).trans kind
      have turnedRelative : (Path.ofString (turnSeparators separator text)).isAbsolute = false :=
        (Path.isAbsolute_ofString _).trans (sameKind.trans kind)
      refine Path.scriptPath_eq_of_writtenUnder ?_
      cases directoryKind : isAbsoluteEntry directory with
      | true =>
          have unturned : turnSeparators separator directory = directory := if_pos directoryKind
          have absolute := (Path.isAbsolute_ofString directory).trans directoryKind
          have rootRelative := usable.resolve_left (by simp [directoryKind])
          rw [unturned, Path.writtenUnder_join_of_isAbsolute absolute rootRelative turnedRelative,
            Path.writtenUnder_join_of_isAbsolute absolute rootRelative relative, turnable.writtenAfter_eq separates]
      | false =>
          have directoryRelative := (Path.isAbsolute_ofString directory).trans directoryKind
          have turnedDirectoryRelative :=
            (Path.isAbsolute_ofString _).trans (sameDirectoryKind.trans directoryKind)
          rw [Path.writtenUnder_join_join turnedDirectoryRelative turnedRelative,
            Path.writtenUnder_join_join directoryRelative relative, turnable.writtenAfter_eq separates,
            directoryTurnable.writtenAfter_eq separates]

end Listfile
