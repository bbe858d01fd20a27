import Listfile.Proofs.Descriptor.Exactness
import Listfile.Proofs.FileTree.Places
import Listfile.Proofs.Path.Written
import Listfile.Proofs.Project.Augmentation
import Mathlib.Data.List.Permutation

-- The Mathlib file states the equations of `Prod.snd` that `cbv` evaluates with.
set_option autoImplicit false

/-! Nothing is listed twice under two spellings. The sources and the include directories that are found are written in
normal form, and so is a base file, so entries that differ are different paths. `..` is not resolved, and an absolute
path is not the same as a relative one. -/

namespace Listfile

open FileTree (Visit)

theorem Path.isSolid_of_mem_moves {path : Path} (solid : ∀ segment ∈ path.segments, segment.IsPlain → segment.IsSolid) :
    ∀ component ∈ path.moves, component.IsSolid := by
  intro component member
  obtain ⟨segment, inSegments, counts⟩ := List.mem_filterMap.1 member
  refine ⟨segment, ?_, counts⟩
  rw [Component.ofSegment?] at counts
  split at counts
  · cases counts
  · rename_i moves
    rw [not_or] at moves
    by_cases isParent : segment = Name.parent
    · rw [isParent]
      decide
    · exact solid segment inSegments ⟨moves.1, moves.2, isParent⟩

theorem isSolid_of_mem_moves_normalized (text : String) :
    ∀ component ∈ (Path.ofString (normalizeSeparators text)).moves, component.IsSolid := by
  refine Path.isSolid_of_mem_moves fun segment inSegments plain => ?_
  refine Name.isSolid_of_no_backslash (not_or.2 ⟨plain.1, plain.2.1⟩) fun unit inSegment => ?_
  obtain ⟨inUnits, inside⟩ := mem_of_mem_splitSegments inSegments unit inSegment
  refine ⟨?_, inside⟩
  rw [Path.ofString, normalizeSeparators, String.toList_ofList, List.map_map] at inUnits
  obtain ⟨character, _inText, same⟩ := List.mem_map.1 inUnits
  rw [← same]
  exact fun isBackslash => normalizeSeparator_ne_backslash character (PathUnit.char.inj isBackslash)

namespace FileTree

variable {tree : FileTree}

/-- No name in the tree has an empty piece or a `.` between its backslashes. -/
def SolidNames (tree : FileTree) : Prop := ∀ entry ∈ tree.entries, ∀ name ∈ entry.1, name.IsSolid

instance (tree : FileTree) : Decidable tree.SolidNames :=
  inferInstanceAs (Decidable (∀ entry ∈ tree.entries, ∀ name ∈ entry.1, name.IsSolid))

theorem SolidNames.of_entryAt (solidNames : tree.SolidNames) {location : Location}
    (present : tree.entryAt location ≠ none) : ∀ name ∈ location, name.IsSolid := by
  intro name member
  obtain ⟨entry, found⟩ := Option.ne_none_iff_exists'.1 present
  exact solidNames _ (mem_entries_of_entryAt (List.ne_nil_of_mem member) found) name member

def FindsFile (tree : FileTree) (root : Path) (searched suffixes : List String) (path : Path) : Prop :=
  ∃ directory ∈ searched, ∃ names, path = (Path.ofString directory).descend names ∧
    tree.HoldsFile suffixes (searchStart root directory) names

def FindsDirectory (tree : FileTree) (root : Path) (searched : List String) (path : Path) : Prop :=
  ∃ directory ∈ searched, ∃ names, path = (Path.ofString directory).descend names ∧
    tree.HoldsDirectory (searchStart root directory) names

section

variable (wellFormed : tree.WellFormed) (root : Path)

include wellFormed

theorem isSolid_of_holds (solidNames : tree.SolidNames) {directory : String} {names : List Name} {entry : Entry}
    (holds : tree.Holds (searchStart root directory) names entry) :
    ∀ component ∈ ((Path.ofString directory).descend names).moves, component.IsSolid := by
  obtain ⟨arrival, arrived, found⟩ := holds.found
  have proper := holds.proper wellFormed
  have fromRoot : ∀ component ∈ (Path.ofString directory).moves, component ∈ (searchStart root directory).moves := by
    intro component member
    cases absolute : (Path.ofString directory).isAbsolute with
    | true =>
        rw [searchStart, Path.join, if_pos absolute]
        exact member
    | false =>
        rw [searchStart, Path.moves_join root absolute]
        exact List.mem_append_right _ member
  have onTheWay : ∀ component ∈ (searchStart root directory).moves, component.IsSolid := by
    refine Path.isSolid_of_mem_moves fun segment inSegments plain => ?_
    obtain ⟨place, present⟩ := ((lookup_eq_ok_iff _ _ _).1 arrived).2.exists_entry segment inSegments plain
    exact solidNames.of_entryAt present segment (List.mem_append_right _ List.mem_cons_self)
  rw [Path.moves_descend _ proper, List.forall_mem_append, List.forall_mem_map]
  refine ⟨fun component member => onTheWay component (fromRoot component member), fun name member => ?_⟩
  have present := Option.ne_none_iff_exists'.2 ⟨entry, found⟩
  have solid := solidNames.of_entryAt present name (List.mem_append_right arrival.location member)
  exact ⟨name, solid, Component.ofSegment?_of_isPlain (proper name member).plain⟩

variable (linkFree : tree.LinkFree)

include linkFree

theorem mem_findFiles_iff (searched suffixes : List String) (text : String) :
    text ∈ tree.findFiles root root searched suffixes ↔
      ∃ path, tree.FindsFile root searched suffixes path ∧ scriptPath (root.join path) root = text := by
  simp only [findFiles, mem_orderedUnion, List.not_mem_nil, false_or, List.mem_flatMap,
    (filesFrom_listsInOrder linkFree wellFormed root _ suffixes).mem_iff]
  constructor
  · intro premise
    obtain ⟨directory, inSearched, names, held, written⟩ := premise
    refine ⟨_, ⟨directory, inSearched, names, rfl, held⟩, ?_⟩
    obtain ⟨⟨content, file⟩, _suffixed⟩ := held
    rw [← Path.join_descend root _ (file.proper wellFormed)]
    exact written
  · intro premise
    obtain ⟨path, ⟨directory, inSearched, names, same, held⟩, written⟩ := premise
    refine ⟨directory, inSearched, names, held, ?_⟩
    obtain ⟨⟨content, file⟩, _suffixed⟩ := held
    rw [same, ← Path.join_descend root _ (file.proper wellFormed)] at written
    exact written

theorem mem_findDirectories_iff (searched : List String) (text : String) :
    text ∈ tree.findDirectories root root searched ↔
      ∃ path, tree.FindsDirectory root searched path ∧ scriptPath (root.join path) root = text := by
  simp only [findDirectories, mem_orderedUnion, List.not_mem_nil, false_or, List.mem_flatMap,
    (directoriesFrom_listsInOrder linkFree wellFormed root _).mem_iff]
  constructor
  · intro premise
    obtain ⟨directory, inSearched, names, held, written⟩ := premise
    refine ⟨_, ⟨directory, inSearched, names, rfl, held⟩, ?_⟩
    rw [← Path.join_descend root _ (held.proper wellFormed)]
    exact written
  · intro premise
    obtain ⟨path, ⟨directory, inSearched, names, same, held⟩, written⟩ := premise
    refine ⟨directory, inSearched, names, held, ?_⟩
    rw [same, ← Path.join_descend root _ (held.proper wellFormed)] at written
    exact written

end

end FileTree

/-- A list of paths below a root, on which no path stands in two spellings. Some paths are known to be on the list. -/
structure ListedOnce (root : Path) (base : Location) (known : Path → Prop) (texts : List String) : Prop where
  nodup : texts.Nodup
  apart : ∀ left ∈ texts, ∀ right ∈ texts, (Path.ofString left).Respells (Path.ofString right) → left = right
  /-- Different entries that can be compared are of different places. -/
  elsewhere : ∀ left ∈ texts, ∀ right ∈ texts, (Path.ofString left).GoDownAlike (Path.ofString right) →
    (root.join (Path.ofString left)).place base = (root.join (Path.ofString right)).place base → left = right
  listed : ∀ path, known path → scriptPath (root.join path) root ∈ texts
  /-- Known paths of the same place that can be compared are one entry. -/
  together : ∀ left right, known left → known right → left.GoDownAlike right →
    (root.join left).place base = (root.join right).place base →
    scriptPath (root.join left) root = scriptPath (root.join right) root

theorem ListedOnce.of_isNormal {root : Path} {known : Path → Prop} {texts : List String} (distinct : texts.Nodup)
    (normal : ∀ text ∈ texts, IsNormal text) (listed : ∀ path, known path → scriptPath (root.join path) root ∈ texts)
    (base : Location) : ListedOnce root base known texts where
  nodup := distinct
  apart := fun left inLeft right inRight respells =>
    (normal left inLeft).eq_of_respells (normal right inRight) respells
  elsewhere := fun left inLeft right inRight alike same =>
    (normal left inLeft).eq_of_respells (normal right inRight) (alike.respells same)
  listed := listed
  together := fun _left _right _knownLeft _knownRight alike same => (alike.respells same).scriptPath_join_eq root

namespace OutputParts

variable {tree : FileTree} {root : Path}

/-- The paths of the sources of an output: its base file and what is found. -/
def HasSource (tree : FileTree) (root : Path) (parts : OutputParts) (path : Path) : Prop :=
  (∃ file, parts.baseFile = some file ∧ path = Path.ofString (normalizeSeparators file)) ∨
    tree.FindsFile root parts.sourceDirectories sourceSuffixes path ∨
    tree.FindsFile root parts.headerDirectories headerSuffixes path

/-- The paths of include directories that are found, or that are named in normal form and relative to the root. -/
def HasInclude (tree : FileTree) (root : Path) (parts : OutputParts) (path : Path) : Prop :=
  tree.FindsDirectory root parts.searchedDirectories path ∨
    ∃ literal ∈ parts.literalDirectories, IsNormal (normalizeSeparators literal) ∧
      isAbsoluteEntry (normalizeSeparators literal) = false ∧ path = Path.ofString (normalizeSeparators literal)

variable (linkFree : tree.LinkFree) (wellFormed : tree.WellFormed)

include linkFree wellFormed

theorem mem_sources_iff (parts : OutputParts) (text : String) :
    text ∈ parts.sources tree root ↔
      ∃ path, parts.HasSource tree root path ∧ scriptPath (root.join path) root = text := by
  rw [sources, mem_orderedUnion, mem_orderedUnion, FileTree.mem_findFiles_iff wellFormed root linkFree,
    FileTree.mem_findFiles_iff wellFormed root linkFree]
  have fromBase : text ∈ baseSource root parts.baseFile ↔ ∃ path, (∃ file, parts.baseFile = some file ∧
      path = Path.ofString (normalizeSeparators file)) ∧ scriptPath (root.join path) root = text := by
    rw [baseSource, Option.mem_toList, Option.map_eq_some_iff]
    constructor
    · intro premise
      obtain ⟨file, named, written⟩ := premise
      exact ⟨_, ⟨file, named, rfl⟩, written⟩
    · intro premise
      obtain ⟨path, ⟨file, named, same⟩, written⟩ := premise
      exact ⟨file, named, same ▸ written⟩
  simp only [fromBase, HasSource, or_and_right, exists_or, or_assoc]

variable (solidNames : tree.SolidNames)

include solidNames

theorem sources_listedOnce (parts : OutputParts) (base : Location) :
    ListedOnce root base (parts.HasSource tree root) (parts.sources tree root) := by
  refine .of_isNormal (parts.sources_nodup tree root) (fun text member => ?_)
    (fun path has => (parts.mem_sources_iff linkFree wellFormed _).2 ⟨path, has, rfl⟩) base
  obtain ⟨path, has, written⟩ := (parts.mem_sources_iff linkFree wellFormed text).1 member
  rw [← written]
  refine isNormal_scriptPath_join root ?_
  rcases has with ⟨file, _named, same⟩ | ⟨directory, _inSearched, names, same, ⟨content, held⟩, _suffixed⟩ |
    ⟨directory, _inSearched, names, same, ⟨content, held⟩, _suffixed⟩
  · rw [same]
    exact isSolid_of_mem_moves_normalized file
  · rw [same]
    exact FileTree.isSolid_of_holds wellFormed root solidNames held
  · rw [same]
    exact FileTree.isSolid_of_holds wellFormed root solidNames held

/-- What is found is in normal form, so only a literal entry that is not is left aside. -/
theorem includeDirectories_listedOnce (parts : OutputParts) (base : Location) :
    ListedOnce root base (parts.HasInclude tree root)
      ((parts.includeDirectories tree root).filter fun text => IsNormal text) := by
  refine .of_isNormal ((parts.includeDirectories_nodup tree root).filter _)
    (fun text member => of_decide_eq_true (List.mem_filter.1 member).2) (fun path has => ?_) base
  rw [List.mem_filter, decide_eq_true_eq, includeDirectories, mem_orderedUnion]
  rcases has with found | ⟨literal, inLiterals, normal, relative, same⟩
  · refine ⟨Or.inl ((FileTree.mem_findDirectories_iff wellFormed root linkFree _ _).2 ⟨path, found, rfl⟩), ?_⟩
    obtain ⟨directory, _inSearched, names, same, held⟩ := found
    rw [same]
    exact isNormal_scriptPath_join root (FileTree.isSolid_of_holds wellFormed root solidNames held)
  · have written : scriptPath (root.join path) root = normalizeSeparators literal := by
      rw [same, scriptPath_join_of_relative root ((Path.isAbsolute_ofString _).trans relative)]
      exact normal
    rw [written]
    exact ⟨Or.inr (List.mem_map_of_mem inLiterals), normal⟩

end OutputParts

/-- How the lists of an output begin: with its own sources and its own include directories. -/
structure OutputUnit.ListsOnce (tree : FileTree) (root : Path) (parts : OutputParts) (unit : OutputUnit) : Prop where
  ownSources : parts.sources tree root <+: unit.sources
  ownIncludes : parts.includeDirectories tree root <+: unit.includeDirectories
  sources : ListedOnce root tree.workingDirectory (parts.HasSource tree root) (parts.sources tree root)
  includes : ListedOnce root tree.workingDirectory (parts.HasInclude tree root)
    ((parts.includeDirectories tree root).filter fun text => IsNormal text)

/-- Every output of a resolved project lists its own sources and include directories once, however they were spelled. -/
theorem resolveDescriptor_listsOnce {tree : FileTree} (linkFree : tree.LinkFree) (wellFormed : tree.WellFormed)
    (solidNames : tree.SolidNames) (root : Path) (descriptor : Json) (project : Project)
    (resolved : (resolveDescriptor tree root descriptor).outcome = .ok project) :
    List.Forall₂ (fun entry unit => ∃ members parts, entry.2 = .object members ∧
        OutputParts.ReadFrom ⟨members, some entry.1⟩ parts ∧ unit.ListsOnce tree root parts)
      (descriptor.membersUnder Tag.output) project.outputs := by
  obtain ⟨members, units, isObject, read⟩ := (resolveDescriptor_eq_ok_iff _ _ _ _).1 resolved
  obtain ⟨entries, present, _filled, related⟩ := (readOutputs_eq_ok_iff tree root _ units).1 read.unitsRead
  rw [isObject, membersUnder_of_present present, read.outputs, List.forall₂_map_right_iff]
  refine related.imp fun entry before readUnit => ?_
  obtain ⟨fields, isFields, parts, readParts, _filled, same⟩ := (readOutput_eq_ok_iff _ _ _ _ _).1 readUnit
  refine ⟨fields, parts, isFields, readParts, ?_⟩
  rw [same]
  exact
    { ownSources := Project.prefix_orderedUnion _ _
      ownIncludes := Project.prefix_orderedUnion _ _
      sources := parts.sources_listedOnce linkFree wellFormed solidNames tree.workingDirectory
      includes := parts.includeDirectories_listedOnce linkFree wellFormed solidNames tree.workingDirectory }

def searchedSample (baseFile : String) (sourceDirectories searchedDirectories literalDirectories : List String) :
    Json :=
  Schema.descriptorOf [("debug", Schema.targetEntry [] [])]
    [("app", .object [(Tag.kind, .string "executable"), (Tag.baseFile, .string baseFile),
        (Tag.sourceDirectories, .texts sourceDirectories), (Tag.headerDirectories, .texts []),
        (Tag.searchedIncludeDirectories, .texts searchedDirectories),
        (Tag.includeDirectories, .texts literalDirectories), (Tag.executableDirectory, .string "bin")])]
    [] []

theorem solidNames_deepTree : deepTree.SolidNames := by decide +kernel

/-- A file and a directory that are named and found, both in two spellings. -/
theorem resolveDescriptor_listsOnce_searchedSample :
    ∃ project, (resolveDescriptor deepTree deepRoot
        (searchedSample "a\\sub//f.c" ["./a"] ["a/"] ["a\\sub"])).outcome = .ok project ∧
      project.outputs = [⟨"app", .executable "bin", ["a/sub/f.c"], ["a", "a/sub"]⟩] ∧
      List.Forall₂ (fun entry unit => ∃ members parts, entry.2 = .object members ∧
          OutputParts.ReadFrom ⟨members, some entry.1⟩ parts ∧ unit.ListsOnce deepTree deepRoot parts)
        ((searchedSample "a\\sub//f.c" ["./a"] ["a/"] ["a\\sub"]).membersUnder Tag.output)
        project.outputs := by
  obtain ⟨project, resolved, outputs⟩ := (map_eq_ok_iff Project.outputs _ _).1
    (show (resolveDescriptor deepTree deepRoot
        (searchedSample "a\\sub//f.c" ["./a"] ["a/"] ["a\\sub"])).outcome.map Project.outputs =
      .ok [⟨"app", .executable "bin", ["a/sub/f.c"], ["a", "a/sub"]⟩] by cbv)
  exact ⟨project, resolved, outputs, resolveDescriptor_listsOnce linkFree_deepTree wellFormed_deepTree
    solidNames_deepTree deepRoot _ project resolved⟩

/-- One file that is reached through `..` and by an absolute path has three entries. One directory that is found, and
named with a slash at the end, has two. -/
theorem not_listedOnce_searchedSample :
    ∃ project, (resolveDescriptor deepTree deepRoot
        (searchedSample "a/sub/f.c" ["a/../a/sub", "/proj/a/sub"] ["a"] ["a/"])).outcome = .ok project ∧
      project.outputs =
        [⟨"app", .executable "bin", ["a/sub/f.c", "a/../a/sub/f.c", "/proj/a/sub/f.c"], ["a", "a/sub", "a/"]⟩] ∧
      (∀ text ∈ ["a/sub/f.c", "a/../a/sub/f.c", "/proj/a/sub/f.c"],
        (deepRoot.join (Path.ofString text)).place deepTree.workingDirectory =
          deepDirectory ++ ["sub", "f.c"].map Name.ofString) ∧
      ∀ text ∈ ["a", "a/"],
        (deepRoot.join (Path.ofString text)).place deepTree.workingDirectory = deepDirectory := by
  obtain ⟨project, resolved, outputs⟩ := (map_eq_ok_iff Project.outputs _ _).1
    (show (resolveDescriptor deepTree deepRoot
        (searchedSample "a/sub/f.c" ["a/../a/sub", "/proj/a/sub"] ["a"] ["a/"])).outcome.map Project.outputs =
      .ok [⟨"app", .executable "bin", ["a/sub/f.c", "a/../a/sub/f.c", "/proj/a/sub/f.c"],
        ["a", "a/sub", "a/"]⟩] by cbv)
  exact ⟨project, resolved, outputs, by decide, by decide⟩

end Listfile
