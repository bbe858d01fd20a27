import Listfile.Proofs.Descriptor.Exactness
import Listfile.Proofs.FileTree.Places

set_option autoImplicit false

/-! Search directories inside other search directories. What is found from a directory to which names lead that are not
hidden is also found from the directory where these names begin, and it is written alike, however the inner
directory is spelled. So an inner directory adds nothing behind the outer one, and in front of it only
changes the order. -/

namespace Listfile

namespace FileTree

variable {tree : FileTree}

theorem byteCount_le_of_isDirectory {path : Path} (isDirectory : tree.isDirectory path = true) :
    path.byteCount ≤ greatestPathLength := by
  obtain ⟨arrival, arrived, _isDirectory⟩ := (isDirectory_iff _ _).1 isDirectory
  exact ((checkPath_eq_ok_iff _).1 ((lookup_eq_ok_iff _ _ _).1 arrived).1).2

theorem Leads.stay {budget : Nat} {here : Location} {segments : List Name} {arrival : Arrival}
    (leads : tree.Leads budget here segments arrival) (isDirectory : tree.entryAt arrival.location = some .directory) :
    tree.Leads budget here (segments ++ [[]]) arrival := by
  induction leads with
  | done budget here => exact .through ((step_eq_ok_iff _ _ _ _).2 ⟨isDirectory, rfl⟩) (.done budget here)
  | through stepped _later ih => exact .through stepped (ih isDirectory)
  | around stepped _later ih =>
      have grouped := ih isDirectory
      rw [List.append_assoc] at grouped
      exact .around stepped grouped

theorem isDirectory_of_child {start : Path} (filled : start.units ≠ []) {name : Name} (proper : name.IsProper)
    (below : tree.isDirectory (start.child name) = true) : tree.isDirectory start = true := by
  have relative := Path.isAbsolute_ofName proper.noSeparator
  obtain ⟨arrival, arrived, _isDirectory⟩ := (isDirectory_iff _ _).1 below
  obtain ⟨valid, leads⟩ := (lookup_eq_ok_iff _ _ _).1 arrived
  obtain ⟨address, short⟩ := (checkPath_eq_ok_iff _).1 valid
  have startValid : checkPath start = .ok () := by
    refine (checkPath_eq_ok_iff _).2 ⟨⟨filled, fun member => address.noNul ?_⟩, ?_⟩
    · obtain ⟨rest, joined⟩ := Path.exists_units_join start relative
      rw [Path.child, joined]
      exact List.mem_append_left rest member
    · exact Nat.le_trans (start.byteCount_le_descend (List.forall_mem_singleton.2 proper)) short
  obtain ⟨front, ended, joined⟩ := Path.exists_segments_join filled
  rw [Path.child, joined _ relative, origin, Path.isAbsolute_join_of_relative start relative] at leads
  obtain ⟨middle, reached, later⟩ := leads.split
  have isDirectory : tree.entryAt middle.location = some .directory := by
    by_contra blocked
    exact splitSegments_ne_nil _ (later.done_of_not_directory blocked).1
  refine (isDirectory_iff _ _).2 ⟨middle, (lookup_eq_ok_iff _ _ _).2 ⟨startValid, ?_⟩, isDirectory⟩
  rcases ended with same | extra
  · rw [same]
    exact reached
  · rw [extra]
    exact reached.stay isDirectory

/-- A path that is not empty leads to a directory, if there is a directory below it. -/
theorem isDirectory_of_descend {start : Path} (filled : start.units ≠ []) {names : List Name}
    (proper : ∀ name ∈ names, name.IsProper) (below : tree.isDirectory (start.descend names) = true) :
    tree.isDirectory start = true := by
  induction names generalizing start with
  | nil => exact below
  | cons name names ih =>
      rw [List.forall_mem_cons] at proper
      have childFilled := Path.units_join_ne_nil filled (Path.isAbsolute_ofName proper.1.noSeparator)
      exact isDirectory_of_child filled proper.1 (ih childFilled proper.2 below)

theorem Holds.around (wellFormed : tree.WellFormed) {start : Path} {names : List Name} (filled : names ≠ [])
    {entry : Entry} (holds : tree.Holds start names entry) : tree.HoldsDirectory start names.dropLast := by
  obtain ⟨arrival, arrived, found⟩ := holds.found
  have split := List.dropLast_append_getLast filled
  have present : tree.entryAt (arrival.location ++ (names.dropLast ++ [names.getLast filled])) ≠ none :=
    split.symm ▸ Option.ne_none_iff_exists'.2 ⟨entry, found⟩
  have isDirectory := wellFormed.directory_above _ (List.cons_ne_nil _ _) present
  refine ⟨⟨arrival, arrived, isDirectory⟩,
    fun name member => holds.shown name (List.dropLast_subset names member), fun filledAbove => ?_⟩
  refine Nat.le_trans (start.byteCount_dropLast_le filledAbove fun name member => ?_) (holds.readable filled)
  exact holds.proper wellFormed name (List.dropLast_subset names member)

/-! ### Spellings of a directory inside -/

/-- Every directory below that can be read from one path can be read from the other. -/
def ReadableLike (tree : FileTree) (inner outer : Path) : Prop :=
  ∀ names, tree.HoldsDirectory inner names → (inner.descend names).byteCount ≤ greatestPathLength →
    (outer.descend names).byteCount ≤ greatestPathLength

/-- The search directory `inner` is a spelling of the search directory `outer` and of names below it. The names lead to
a directory, none of them is hidden, and the outer path is not empty. The inner spelling is no shorter, as it is
when it adds `.` segments and slashes; otherwise the outer one must not make paths too long. -/
structure IsInside (tree : FileTree) (base : Path) (outer : String) (names : List Name) (inner : String) : Prop where
  proper : ∀ name ∈ names, name.IsProper
  shown : ∀ name ∈ names, name.isHidden = false
  filled : (searchStart base outer).units ≠ []
  isDirectory : tree.isDirectory ((searchStart base outer).descend names) = true
  respells : (Path.ofString inner).Respells ((Path.ofString outer).descend names)
  readable : ((Path.ofString outer).descend names).slashed.byteCount ≤ (Path.ofString inner).slashed.byteCount ∨
    tree.ReadableLike (searchStart base inner) ((searchStart base outer).descend names)

namespace IsInside

variable {base root : Path} {outer inner : String} {names : List Name}
  (inside : tree.IsInside base outer names inner)

include inside

theorem outer_isDirectory : tree.isDirectory (searchStart base outer) = true :=
  isDirectory_of_descend inside.filled inside.proper inside.isDirectory

theorem searchStart_descend :
    (searchStart base outer).descend names = base.join ((Path.ofString outer).descend names) :=
  Path.join_descend base (Path.ofString outer) inside.proper

theorem respells_searchStart : (searchStart base inner).Respells ((searchStart base outer).descend names) := by
  rw [inside.searchStart_descend]
  exact inside.respells.join base

theorem readableLike (wellFormed : tree.WellFormed) :
    tree.ReadableLike (searchStart base inner) ((searchStart base outer).descend names) := by
  refine inside.readable.elim (fun longer below holds short => ?_) id
  by_cases atInner : below = []
  · rw [atInner]
    exact byteCount_le_of_isDirectory inside.isDirectory
  · have proper := holds.proper wellFormed
    refine Nat.le_trans ?_ short
    rw [inside.searchStart_descend, Path.join_descend base _ proper, searchStart, Path.join_descend base _ proper]
    have lengths : (((Path.ofString outer).descend names).descend below).byteCount ≤
        ((Path.ofString inner).descend below).byteCount := by
      rw [((Path.ofString outer).descend names).byteCount_descend atInner proper,
        (Path.ofString inner).byteCount_descend atInner proper]
      exact Nat.add_le_add_right longer _
    have sameKind := (inside.respells.descend proper).isAbsolute
    cases absolute : ((Path.ofString inner).descend below).isAbsolute with
    | true =>
        have alsoAbsolute := sameKind.symm.trans absolute
        rw [Path.join, if_pos alsoAbsolute, Path.join, if_pos absolute]
        exact lengths
    | false =>
        rw [Path.byteCount_join base absolute, Path.byteCount_join base (sameKind.symm.trans absolute)]
        exact Nat.add_le_add_left lengths _

theorem scriptPath_eq (based : base.units = [] → root.units = []) {below : List Name}
    (proper : ∀ name ∈ below, name.IsProper) :
    scriptPath ((searchStart base inner).descend below) root =
      scriptPath ((searchStart base outer).descend (names ++ below)) root := by
  have sameKind := inside.respells.isAbsolute
  rw [Path.isAbsolute_descend _ inside.proper] at sameKind
  rw [Path.descend_append]
  refine (inside.respells_searchStart.descend proper).scriptPath_eq ?_
  by_cases empty : base.units = []
  · exact Or.inr (based empty)
  · rw [← Path.descend_append]
    exact Or.inl (Path.leadingComponents_join_descend empty sameKind proper
      (List.forall_mem_append.2 ⟨inside.proper, proper⟩))

variable (linkFree : tree.LinkFree)

include linkFree

theorem location_eq {arrival other : Arrival} (arrived : tree.lookup (searchStart base inner) = .ok arrival)
    (around : tree.lookup (searchStart base outer) = .ok other) : arrival.location = other.location ++ names := by
  rw [linkFree.location_of_lookup arrived, inside.respells_searchStart.place_eq,
    Path.place_descend _ inside.proper, ← linkFree.location_of_lookup around]

theorem ne_nil_of_holds {below : List Name} {content : Content}
    (held : tree.Holds (searchStart base inner) below (.file content)) : below ≠ [] := by
  intro atInner
  obtain ⟨other, around, _isDirectory⟩ := (isDirectory_iff _ _).1 inside.outer_isDirectory
  obtain ⟨deeper, arrivedBelow, isDirectory⟩ := (isDirectory_iff _ _).1 inside.isDirectory
  obtain ⟨arrival, arrived, found⟩ := held.found
  rw [linkFree.location_of_lookup arrivedBelow, Path.place_descend _ inside.proper,
    ← linkFree.location_of_lookup around, ← inside.location_eq linkFree arrived around] at isDirectory
  rw [atInner, List.append_nil, isDirectory] at found
  cases found

variable (wellFormed : tree.WellFormed)

include wellFormed

/-- What the inner directory holds, the outer one holds below the names. -/
theorem holds {below : List Name} {entry : Entry} (holds : tree.Holds (searchStart base inner) below entry) :
    tree.Holds (searchStart base outer) (names ++ below) entry := by
  obtain ⟨other, around, _isDirectory⟩ := (isDirectory_iff _ _).1 inside.outer_isDirectory
  obtain ⟨arrival, arrived, found⟩ := holds.found
  refine ⟨⟨other, around, ?_⟩, List.forall_mem_append.2 ⟨inside.shown, holds.shown⟩, fun filled => ?_⟩
  · rw [← List.append_assoc, ← inside.location_eq linkFree arrived around]
    exact found
  · by_cases atInner : below = []
    · rw [atInner, List.append_nil] at filled ⊢
      exact Nat.le_trans ((searchStart base outer).byteCount_dropLast_le filled inside.proper)
        (byteCount_le_of_isDirectory inside.isDirectory)
    · rw [List.dropLast_append_of_ne_nil atInner, Path.descend_append]
      exact inside.readableLike wellFormed _ (holds.around wellFormed atInner) (holds.readable atInner)

theorem holdsFile {suffixes : List String} {below : List Name}
    (holdsFile : tree.HoldsFile suffixes (searchStart base inner) below) :
    tree.HoldsFile suffixes (searchStart base outer) (names ++ below) := by
  obtain ⟨⟨content, held⟩, suffixed⟩ := holdsFile
  have filled := inside.ne_nil_of_holds linkFree held
  have proper := held.proper wellFormed _ (List.getLast_mem filled)
  refine ⟨⟨content, inside.holds linkFree wellFormed held⟩, ?_⟩
  rw [← List.dropLast_append_getLast filled, hasSuffix_descend_iff _ _ proper] at suffixed
  rw [← List.dropLast_append_getLast filled, ← List.append_assoc, hasSuffix_descend_iff _ _ proper]
  exact suffixed

theorem filesFrom_subset (based : base.units = [] → root.units = []) (suffixes : List String) :
    ∀ text ∈ tree.filesFrom root (searchStart base inner) suffixes,
      text ∈ tree.filesFrom root (searchStart base outer) suffixes := by
  intro text member
  obtain ⟨below, held, written⟩ := ((filesFrom_listsInOrder linkFree wellFormed root _ suffixes).mem_iff text).1 member
  refine ((filesFrom_listsInOrder linkFree wellFormed root _ suffixes).mem_iff text).2
    ⟨names ++ below, inside.holdsFile linkFree wellFormed held, ?_⟩
  obtain ⟨⟨content, file⟩, _suffixed⟩ := held
  rw [← inside.scriptPath_eq based (file.proper wellFormed)]
  exact written

theorem directoriesFrom_subset (based : base.units = [] → root.units = []) :
    ∀ text ∈ tree.directoriesFrom root (searchStart base inner),
      text ∈ tree.directoriesFrom root (searchStart base outer) := by
  intro text member
  obtain ⟨below, held, written⟩ := ((directoriesFrom_listsInOrder linkFree wellFormed root _).mem_iff text).1 member
  refine ((directoriesFrom_listsInOrder linkFree wellFormed root _).mem_iff text).2
    ⟨names ++ below, inside.holds linkFree wellFormed held, ?_⟩
  rw [← inside.scriptPath_eq based (held.proper wellFormed)]
  exact written

end IsInside

end FileTree

section

variable {single : String → List String} {outer inner : String}
  (absorbed : ∀ text ∈ single inner, text ∈ single outer)

include absorbed

theorem orderedUnion_absorbed_behind (before between after : List String) :
    orderedUnion [] ((before ++ outer :: between ++ inner :: after).flatMap single) =
      orderedUnion [] ((before ++ outer :: between ++ after).flatMap single) := by
  have known : ∀ text ∈ single inner, text ∈ orderedUnion [] ((before ++ outer :: between).flatMap single) := by
    intro text member
    refine (mem_orderedUnion _ _ _).2 (Or.inr (List.mem_flatMap.2 ⟨outer, ?_, absorbed text member⟩))
    exact List.mem_append_right _ List.mem_cons_self
  rw [List.flatMap_append, orderedUnion_append, List.flatMap_cons, orderedUnion_append,
    orderedUnion_of_subset known, ← orderedUnion_append, ← List.flatMap_append]

theorem mem_orderedUnion_absorbed (before between after : List String) (text : String) :
    text ∈ orderedUnion [] ((before ++ inner :: between ++ outer :: after).flatMap single) ↔
      text ∈ orderedUnion [] ((before ++ between ++ outer :: after).flatMap single) := by
  simp only [mem_orderedUnion, List.not_mem_nil, false_or, List.flatMap_append, List.flatMap_cons, List.mem_append]
  have known := absorbed text
  tauto

end

open FileTree in
/-- Whatever lies inside a search directory can be searched again without effect behind it, and without effect but on
the order in front of it. -/
theorem searches_absorb {tree : FileTree} (linkFree : tree.LinkFree) (wellFormed : tree.WellFormed) {root base : Path}
    (based : base = root ∨ ∃ path, base = root.join path) {outer inner : String} {names : List Name}
    (inside : tree.IsInside base outer names inner) (suffixes before between after : List String) :
    (tree.findFiles root base (before ++ outer :: between ++ inner :: after) suffixes =
          tree.findFiles root base (before ++ outer :: between ++ after) suffixes ∧
        tree.findDirectories root base (before ++ outer :: between ++ inner :: after) =
          tree.findDirectories root base (before ++ outer :: between ++ after)) ∧
      (∀ text, text ∈ tree.findFiles root base (before ++ inner :: between ++ outer :: after) suffixes ↔
          text ∈ tree.findFiles root base (before ++ between ++ outer :: after) suffixes) ∧
      ∀ text, text ∈ tree.findDirectories root base (before ++ inner :: between ++ outer :: after) ↔
          text ∈ tree.findDirectories root base (before ++ between ++ outer :: after) := by
  have noRoot : base.units = [] → root.units = [] := by
    intro empty
    rcases based with same | ⟨path, joined⟩
    · exact same ▸ empty
    · exact Path.units_eq_nil_of_join (joined ▸ empty)
  have files := inside.filesFrom_subset linkFree wellFormed noRoot suffixes
  have directories := inside.directoriesFrom_subset linkFree wellFormed noRoot
  exact ⟨⟨orderedUnion_absorbed_behind files before between after,
      orderedUnion_absorbed_behind directories before between after⟩,
    mem_orderedUnion_absorbed files before between after, mem_orderedUnion_absorbed directories before between after⟩

open FileTree

theorem isInside_deepTree : deepTree.IsInside deepRoot "a" (["sub"].map Name.ofString) "./a//sub/" where
  proper := by decide +kernel
  shown := by decide
  filled := by decide
  isDirectory := by cbv
  respells := by decide
  readable := Or.inl (by decide)

/-- The inner directory is searched for nothing. -/
theorem searches_absorb_deepTree :
    deepTree.findFiles deepRoot deepRoot ["a"] ["c"] = ["a/sub/f.c"] ∧
      deepTree.findFiles deepRoot deepRoot ["a", "./a//sub/"] ["c"] =
        deepTree.findFiles deepRoot deepRoot ["a"] ["c"] :=
  ⟨by cbv, (searches_absorb linkFree_deepTree wellFormed_deepTree (Or.inl rfl) isInside_deepTree ["c"] [] []
    []).1.1⟩

/-- An empty path is no directory, though something lies below it. And what is found from one spelling can be too deep
for a longer one. -/
theorem not_absorbed_deepTree :
    deepTree.LinkFree ∧ (deepTree.isDirectory ((searchStart ⟨[]⟩ "").descend (["proj"].map Name.ofString)) = true ∧
        (Path.ofString "proj").Respells ((Path.ofString "").descend (["proj"].map Name.ofString)) ∧
        deepTree.findFiles ⟨[]⟩ ⟨[]⟩ ["", "proj"] ["c"] ≠ deepTree.findFiles ⟨[]⟩ ⟨[]⟩ [""] ["c"]) ∧
      deepTree.isDirectory (searchStart deepRoot longSpelling) = true ∧
        (Path.ofString "a").Respells (Path.ofString longSpelling) ∧
        deepTree.findFiles deepRoot deepRoot [longSpelling, "a"] ["c"] ≠
          deepTree.findFiles deepRoot deepRoot [longSpelling] ["c"] := by
  have long : (Path.ofString longSpelling).moves = (Path.ofString "a").moves := by
    have nothing : (List.replicate 2044 Name.current).filterMap Component.ofSegment? = [] :=
      List.filterMap_replicate_of_none rfl
    have written : (Path.ofString longSpelling).units = (Path.ofString "a").units ++ (dots 2044).map PathUnit.char := by
      rw [longSpelling, Path.ofString, String.toList_ofList]
      rfl
    rw [Path.moves, Path.segments, written, splitSegments_dots, List.filterMap_append, nothing, List.append_nil]
    rfl
  have relative : (Path.ofString longSpelling).isAbsolute = false := by
    rw [longSpelling, Path.ofString, String.toList_ofList]
    rfl
  have fromNothing : deepTree.findFiles ⟨[]⟩ ⟨[]⟩ [""] ["c"] = [] := by cbv
  have fromProject : deepTree.findFiles ⟨[]⟩ ⟨[]⟩ ["", "proj"] ["c"] = ["proj/a/sub/f.c"] := by cbv
  have fromShort : deepTree.filesFrom deepRoot (searchStart deepRoot "a") ["c"] = ["a/sub/f.c"] := by cbv
  have both : deepTree.findFiles deepRoot deepRoot [longSpelling, "a"] ["c"] =
      orderedUnion (deepTree.findFiles deepRoot deepRoot [longSpelling] ["c"])
        (deepTree.filesFrom deepRoot (searchStart deepRoot "a") ["c"]) := by
    simp only [findFiles, List.flatMap_cons, List.flatMap_nil, List.append_nil, orderedUnion_append]
  refine ⟨linkFree_deepTree, ⟨by cbv, by decide, ?_⟩, isDirectory_longSpelling, ⟨relative.symm, long.symm⟩, ?_⟩
  · rw [fromNothing, fromProject]
    exact List.cons_ne_nil _ _
  · rw [both, findFiles_longSpelling, fromShort]
    exact List.cons_ne_nil _ _

end Listfile
