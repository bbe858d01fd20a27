import Listfile.Proofs.Path.Ends

set_option autoImplicit false

/-! What can be told from the text of a path. Where the names are text without backslashes, the text spells out the
components of the path and is read back as these components. So a path that is relative, or that is absolute and not
below the root, keeps its identity when it is written from any root. -/

namespace Listfile

open Component (appendPiece appendTo)

namespace Component

def name : Component → Name
  | .root => []
  | .current => Name.current
  | .parent => Name.parent
  | .normal name => name

structure IsMove (component : Component) : Prop where
  filled : component.name ≠ []
  notCurrent : component.name ≠ Name.current
  inside : .separator ∉ component.name

def joined (components : List Component) : String :=
  "/".intercalate (components.map fun component => component.name.shown)

def spelled : List Component → String
  | [] => "."
  | .root :: components => "/" ++ joined components
  | components => joined components

theorem name_of_ofSegment? {segment : Name} {component : Component} (counts : ofSegment? segment = some component) :
    component.name = segment := by
  rw [ofSegment?] at counts
  split at counts
  · cases counts
  · split at counts
    · rename_i isParent
      rw [← Option.some.inj counts, isParent]
      rfl
    · rw [← Option.some.inj counts]
      rfl

theorem ne_current_of_ofSegment? {segment : Name} {component : Component}
    (counts : ofSegment? segment = some component) : component ≠ .current := by
  intro isCurrent
  rw [isCurrent, ofSegment?] at counts
  split at counts
  · cases counts
  · split at counts <;> cases counts

end Component

def Name.IsClear (name : Name) : Prop := ∀ unit ∈ name, unit.isText = true ∧ unit ≠ .char '\\'

instance (name : Name) : Decidable name.IsClear :=
  inferInstanceAs (Decidable (∀ unit ∈ name, unit.isText = true ∧ unit ≠ .char '\\'))

namespace Name.IsClear

variable {name : Name} (clear : name.IsClear)

include clear

theorem written_eq : name.written = name.map PathUnit.shown := by
  refine List.map_congr_left fun unit member => ?_
  obtain ⟨isText, noBackslash⟩ := clear unit member
  cases unit with
  | char character => exact if_neg fun isBackslash => noBackslash (congrArg PathUnit.char isBackslash)
  | invalid bytes => cases isText

theorem map_shown : (name.map PathUnit.shown).map .char = name := by
  rw [List.map_map]
  refine (List.map_congr_left fun unit member => ?_).trans (List.map_id name)
  cases unit with
  | char character => rfl
  | invalid bytes => cases (clear _ member).1

theorem not_mem_backslash : .char '\\' ∉ name := fun member => (clear _ member).2 rfl

end Name.IsClear

namespace Path

def steps (path : Path) : List Component := path.components.filter (· ≠ .current)

theorem steps_eq (path : Path) : path.steps = (if path.isAbsolute then [.root] else []) ++ path.moves := by
  have moving : path.moves.filter (· ≠ .current) = path.moves := by
    rw [List.filter_eq_self]
    intro component member
    obtain ⟨segment, _inSegments, counts⟩ := List.mem_filterMap.1 member
    exact decide_eq_true (Component.ne_current_of_ofSegment? counts)
  rw [steps, components_eq, List.filter_append, moving, leadingComponents]
  split
  · rfl
  · split <;> rfl

theorem root_not_mem_moves (path : Path) : .root ∉ path.moves := by
  intro member
  obtain ⟨segment, _inSegments, counts⟩ := List.mem_filterMap.1 member
  rw [Component.ofSegment?] at counts
  split at counts
  · cases counts
  · split at counts <;> cases counts

theorem root_mem_steps_iff (path : Path) : .root ∈ path.steps ↔ path.isAbsolute = true := by
  rw [steps_eq, List.mem_append, or_iff_left path.root_not_mem_moves]
  split
  · rename_i absolute
    exact iff_of_true (List.mem_singleton.2 rfl) absolute
  · rename_i relative
    exact iff_of_false List.not_mem_nil relative

theorem respells_iff_steps_eq {left right : Path} : left.Respells right ↔ left.steps = right.steps := by
  constructor
  · intro respells
    rw [steps_eq, steps_eq, respells.isAbsolute, respells.moves]
  · intro same
    have sameKind : left.isAbsolute = right.isAbsolute := by
      rw [Bool.eq_iff_iff, ← root_mem_steps_iff, ← root_mem_steps_iff, same]
    rw [steps_eq, steps_eq, sameKind] at same
    exact ⟨sameKind, List.append_cancel_left same⟩

/-! ### Clear paths -/

def IsClear (path : Path) : Prop := ∀ component ∈ path.components, component.name.IsClear

instance (path : Path) : Decidable path.IsClear :=
  inferInstanceAs (Decidable (∀ component ∈ path.components, component.name.IsClear))

/-- Each move has a name that is a segment of its own, and no two segments become one when they are written. -/
theorem names_moves (path : Path) : (path.moves.map Component.name).filterMap Component.ofSegment? = path.moves := by
  rw [List.filterMap_map]
  refine (List.filterMap_congr fun component member => ?_).trans (List.filterMap_some (l := path.moves))
  obtain ⟨segment, _inSegments, counts⟩ := List.mem_filterMap.1 member
  rw [Function.comp_apply, Component.name_of_ofSegment? counts, counts]

theorem isAbsolute_of_head?_segments {path : Path} {first : Name} (begins : path.segments.head? = some first)
    (filled : first ≠ []) : path.isAbsolute = false := by
  rw [Bool.eq_false_iff]
  intro absolute
  obtain ⟨rest, units⟩ := List.head?_eq_some_iff.1 (beq_iff_eq.1 absolute)
  rw [segments, units, splitSegments, if_pos rfl] at begins
  exact filled (Option.some.inj begins).symm

variable {path : Path}

/-- Without a root in front, no component is written as a slash. -/
theorem spelled_moves (moving : path.moves ≠ []) :
    Component.spelled path.moves = Component.joined path.moves := by
  have noRoot := path.root_not_mem_moves
  cases begins : path.moves with
  | nil => exact absurd begins moving
  | cons first others =>
      rw [begins, List.mem_cons, not_or] at noRoot
      cases first with
      | root => exact absurd rfl noRoot.1
      | current => rfl
      | parent => rfl
      | normal name => rfl

theorem isMove_of_mem_moves {component : Component} (member : component ∈ path.moves) : component.IsMove := by
  obtain ⟨segment, inSegments, counts⟩ := List.mem_filterMap.1 member
  have same := Component.name_of_ofSegment? counts
  rw [Component.ofSegment?] at counts
  split at counts
  · cases counts
  · rename_i moves
    obtain ⟨filled, notCurrent⟩ := not_or.1 moves
    exact {
      filled := same ▸ filled
      notCurrent := same ▸ notCurrent
      inside := same ▸ fun separates => (mem_of_mem_splitSegments inSegments _ separates).2 rfl }

theorem isSolid_name {component : Component} (member : component ∈ path.moves)
    (noBackslash : .char '\\' ∉ component.name) : component.name.IsSolid := by
  obtain ⟨filled, notCurrent, inside⟩ := isMove_of_mem_moves member
  exact Name.isSolid_of_no_backslash (not_or.2 ⟨filled, notCurrent⟩) fun unit inName =>
    ⟨fun isBackslash => noBackslash (isBackslash ▸ inName), fun separates => inside (separates ▸ inName)⟩

namespace IsClear

variable (clear : path.IsClear)

include clear

theorem name_moves {component : Component} (member : component ∈ path.moves) : component.name.IsClear :=
  clear component (List.mem_append_right _ member)

theorem foldl_appendTo (moving : path.moves ≠ []) (before : List Char) :
    path.moves.foldl appendTo before = appendPiece before (Component.joined path.moves).toList := by
  have filled : path.moves.map Component.name ≠ [] := fun empty => moving (List.map_eq_nil_iff.1 empty)
  have solid : ∀ name ∈ path.moves.map Component.name, name.IsSolid := by
    intro name member
    obtain ⟨component, inMoves, same⟩ := List.mem_map.1 member
    exact same ▸ isSolid_name inMoves (clear.name_moves inMoves).not_mem_backslash
  have written := foldl_appendTo_of_solid filled solid before
  rw [names_moves] at written
  rw [written, Component.joined, String.toList_intercalate, List.map_map, List.map_map]
  refine congrArg (fun pieces => appendPiece before (List.intercalate ['/'] pieces)) ?_
  refine List.map_congr_left fun component member => ?_
  exact (clear.name_moves member).written_eq.trans String.toList_ofList.symm

theorem segments_joined (moving : path.moves ≠ []) :
    (ofString (Component.joined path.moves)).segments = path.moves.map Component.name := by
  have filled : (path.moves.map fun component => component.name.shown.toList) ≠ [] :=
    fun empty => moving (List.map_eq_nil_iff.1 empty)
  rw [segments, ofString, Component.joined, String.toList_intercalate, List.map_map]
  refine (splitSegments_intercalate filled).trans ?_
  rw [List.flatMap_map, List.map_eq_flatMap]
  refine List.flatMap_congr fun component member => ?_
  rw [Name.shown, String.toList_ofList, (clear.name_moves member).map_shown,
    splitSegments_of_no_separator (isMove_of_mem_moves member).inside]

theorem moves_joined : (ofString (Component.joined path.moves)).moves = path.moves := by
  by_cases stays : path.moves = []
  · rw [stays]
    rfl
  · rw [moves, clear.segments_joined stays, names_moves]

theorem components_joined (moving : path.moves ≠ []) :
    (ofString (Component.joined path.moves)).components = path.moves := by
  obtain ⟨first, others, begins⟩ := List.exists_cons_of_ne_nil moving
  obtain ⟨filled, notCurrent, _inside⟩ := isMove_of_mem_moves (begins ▸ List.mem_cons_self : first ∈ path.moves)
  have firstSegment : (ofString (Component.joined path.moves)).segments.head? = some first.name := by
    rw [clear.segments_joined moving, begins]
    rfl
  have noFront : (ofString (Component.joined path.moves)).leadingComponents = [] := by
    rw [leadingComponents, if_neg (Bool.eq_false_iff.1 (isAbsolute_of_head?_segments firstSegment filled)),
      firstSegment, if_neg fun isCurrent => notCurrent (Option.some.inj isCurrent)]
  rw [components_eq, noFront, List.nil_append, clear.moves_joined]

theorem components_joined_slash :
    (ofString ("/" ++ Component.joined path.moves)).components = .root :: path.moves := by
  have units : (ofString ("/" ++ Component.joined path.moves)).units =
      .separator :: (ofString (Component.joined path.moves)).units := by
    rw [ofString, String.toList_append]
    rfl
  have absolute : (ofString ("/" ++ Component.joined path.moves)).isAbsolute = true := by
    rw [isAbsolute, units]
    rfl
  have sameMoves : (ofString ("/" ++ Component.joined path.moves)).moves =
      (ofString (Component.joined path.moves)).moves := by
    rw [moves, segments, units, splitSegments, if_pos rfl]
    rfl
  rw [components_of_isAbsolute absolute, sameMoves, clear.moves_joined]

theorem components_spelled (filled : path.steps ≠ []) :
    (ofString (Component.spelled path.steps)).components = path.steps := by
  rw [steps_eq] at filled ⊢
  split
  · exact clear.components_joined_slash
  · rename_i relative
    rw [if_neg relative, List.nil_append] at filled
    rw [List.nil_append, spelled_moves filled]
    exact clear.components_joined filled

theorem steps_spelled : (ofString (Component.spelled path.steps)).steps = path.steps := by
  by_cases empty : path.steps = []
  · rw [empty]
    rfl
  · rw [steps, clear.components_spelled empty, steps, List.filter_filter]
    simp only [Bool.and_self]

end IsClear

/-- A path of which nothing is left out when it is written from the root, where it is joined to the root. An absolute
path replaces the root, and must not be below it then. -/
def IsApartFrom (path root : Path) : Prop :=
  path.isAbsolute = true → ¬(root.isAbsolute = true ∧ root.components <+: path.components)

instance (path root : Path) : Decidable (path.IsApartFrom root) :=
  inferInstanceAs (Decidable (path.isAbsolute = true → ¬(root.isAbsolute = true ∧ root.components <+: path.components)))

theorem IsApartFrom.writtenUnder_eq {root : Path} (apart : path.IsApartFrom root) (absolute : path.isAbsolute = true) :
    path.writtenUnder root = Component.written path.components := by
  cases rootKind : root.isAbsolute with
  | false => exact writtenUnder_of_isAbsolute absolute rootKind
  | true =>
      rw [writtenUnder]
      cases under : path.componentsAfter? root with
      | none => rfl
      | some rest =>
          rw [componentsAfter?, List.isPrefixOf?_eq_some_iff_append_eq] at under
          exact absurd ⟨rootKind, rest, under⟩ (apart absolute)

theorem IsClear.scriptPath_join (clear : path.IsClear) {root : Path} (apart : path.IsApartFrom root) :
    scriptPath (root.join path) root = Component.spelled path.steps := by
  rw [steps_eq]
  cases absolute : path.isAbsolute with
  | false =>
      refine String.toList_inj.1 ((toList_scriptPath_join root absolute).trans ?_)
      rw [text, if_neg Bool.false_ne_true, List.nil_append]
      by_cases stays : path.moves = []
      · rw [if_pos stays, stays]
        rfl
      · rw [if_neg stays, clear.foldl_appendTo stays, spelled_moves stays]
        rfl
  | true =>
      have written : (root.join path).writtenUnder root = '/' :: (Component.joined path.moves).toList := by
        rw [join, if_pos absolute, apart.writtenUnder_eq absolute, components_of_isAbsolute absolute]
        by_cases stays : path.moves = []
        · rw [stays]
          rfl
        · exact (clear.foldl_appendTo stays ['/']).trans rfl
      rw [scriptPath_eq, written, if_neg (List.cons_ne_nil _ _), String.ofList_cons, String.ofList_toList]
      rfl

/-- A text that says all that a path says, which is joined to the root. Only an empty root leaves a difference: a `.` in
front of the path counts there as a component. -/
structure IsKeptIn (path root : Path) (text : String) : Prop where
  spelled : text = Component.spelled path.steps
  components : path.steps ≠ [] → (ofString text).components = path.steps
  steps : (ofString text).steps = path.steps
  joined : (root.join (ofString text)).steps = (root.join path).steps
  joinedComponents : root.units ≠ [] → (root.join (ofString text)).components = (root.join path).components

theorem Respells.components_join {left right root : Path} (respells : left.Respells right) (based : root.units ≠ []) :
    (root.join left).components = (root.join right).components := by
  rw [components_eq, components_eq, (respells.join root).moves]
  exact congrArg (· ++ _) (leadingComponents_join_descend based respells.isAbsolute (List.forall_mem_nil _)
    (List.forall_mem_nil _))

theorem IsClear.isKeptIn (clear : path.IsClear) {root : Path} {text : String}
    (spelled : text = Component.spelled path.steps) : path.IsKeptIn root text := by
  have steps : (ofString text).steps = path.steps := spelled ▸ clear.steps_spelled
  have respells := respells_iff_steps_eq.2 steps
  exact {
    spelled
    components := fun filled => spelled ▸ clear.components_spelled filled
    steps
    joined := respells_iff_steps_eq.1 (respells.join root)
    joinedComponents := respells.components_join }

/-- A path can be told from its text, and paths with the same text are the same. -/
theorem scriptPath_losesNothing {root path : Path} (clear : path.IsClear) (apart : path.IsApartFrom root) :
    path.IsKeptIn root (scriptPath (root.join path) root) ∧
      ∀ other : Path, other.IsClear → other.IsApartFrom root →
        (scriptPath (root.join other) root = scriptPath (root.join path) root ↔ other.steps = path.steps) := by
  refine ⟨clear.isKeptIn (clear.scriptPath_join apart), fun other otherClear otherApart => ?_⟩
  rw [clear.scriptPath_join apart, otherClear.scriptPath_join otherApart]
  constructor
  · intro sameText
    rw [← otherClear.steps_spelled, sameText, clear.steps_spelled]
  · exact congrArg Component.spelled

theorem scriptPath_losesNothing_upward :
    (ofString "./a//../b/").IsClear ∧ (ofString "./a//../b/").IsApartFrom (ofString "./proj/../x/") ∧
      (ofString "/opt//lib/.").IsClear ∧ (ofString "/opt//lib/.").IsApartFrom (ofString "/home/me") ∧
      (ofString "./a//../b/").IsKeptIn (ofString "./proj/../x/") "a/../b" ∧
      (ofString "/opt//lib/.").IsKeptIn (ofString "/home/me") "/opt/lib" :=
  ⟨by decide, by decide, by decide, by decide,
    (scriptPath_losesNothing (by decide) (by decide)).1, (scriptPath_losesNothing (by decide) (by decide)).1⟩

end Path

end Listfile
