import Listfile.Descriptor.Resolution
import Listfile.Proofs.FileTree.Walk
import Listfile.Proofs.Lists

set_option autoImplicit false

/-! What a resolution sees of a file tree: the results and warnings of its searches, and nothing else. Trees without
links that differ by one file, whose name has no suffix that is searched for, look the same to it. -/

namespace Listfile

open FileTree (FreeForFile LinkFree Visit)

/-- Every search for sources, headers or directories has the same result in both trees, and the same warnings. -/
structure SearchedAlike (left right : FileTree) : Prop where
  sources : ∀ root start, left.filesFrom root start sourceSuffixes = right.filesFrom root start sourceSuffixes
  headers : ∀ root start, left.filesFrom root start headerSuffixes = right.filesFrom root start headerSuffixes
  directories : ∀ root start, left.directoriesFrom root start = right.directoriesFrom root start
  warnings : ∀ start, left.searchWarnings start = right.searchWarnings start

namespace SearchedAlike

variable {left right : FileTree} (alike : SearchedAlike left right) (root : Path)

include alike

theorem findSources_eq (base : Path) (searched : List String) :
    left.findFiles root base searched sourceSuffixes = right.findFiles root base searched sourceSuffixes := by
  simp only [FileTree.findFiles, alike.sources]

theorem findHeaders_eq (base : Path) (searched : List String) :
    left.findFiles root base searched headerSuffixes = right.findFiles root base searched headerSuffixes := by
  simp only [FileTree.findFiles, alike.headers]

theorem findDirectories_eq (base : Path) (searched : List String) :
    left.findDirectories root base searched = right.findDirectories root base searched := by
  simp only [FileTree.findDirectories, alike.directories]

theorem searchLog_eq (base : Path) (searched : List String) (kind : String) (found : List String) :
    left.searchLog base searched kind found = right.searchLog base searched kind found := by
  simp only [FileTree.searchLog, alike.warnings]

theorem readOutputs_eq (top : Fields) : readOutputs left root top = readOutputs right root top := by
  simp only [readOutputs, readOutput, readOutputFields, alike.findSources_eq, alike.findHeaders_eq,
    alike.findDirectories_eq, alike.searchLog_eq]

theorem readLibraries_eq (top : Fields) : readLibraries left root top = readLibraries right root top := by
  simp only [readLibraries, readLibrary, readLibraryFields, alike.findHeaders_eq, alike.findDirectories_eq,
    alike.searchLog_eq]

theorem resolveDescriptor_eq (descriptor : Json) :
    resolveDescriptor left root descriptor = resolveDescriptor right root descriptor := by
  simp only [resolveDescriptor, alike.readOutputs_eq, alike.readLibraries_eq]

end SearchedAlike

def Name.suffix? (name : Name) : Option String := name.extension?.bind Name.text?

theorem hasSuffix_iff (path : Path) (suffixes : List String) :
    hasSuffix path suffixes = true ↔
      ∃ name suffix, path.fileName? = some name ∧ name.suffix? = some suffix ∧ suffix ∈ suffixes := by
  have suffixOf : path.extension? = path.fileName?.bind Name.suffix? := rfl
  rw [hasSuffix, suffixOf]
  cases path.fileName? with
  | none => simp
  | some name =>
      rw [Option.bind_some]
      cases found : name.suffix? <;> simp [found]

namespace FileTree

variable {tree : FileTree} {place : Location} {content : Content}

theorem filesFrom_eq_filterMap (tree : FileTree) (root start : Path) (suffixes : List String) :
    tree.filesFrom root start suffixes =
      ((tree.walk start).filterMap fun visit => visit.file?.filter (hasSuffix · suffixes)).map (scriptPath · root) := by
  rw [filesFrom, List.filter_filterMap]

section

variable (linkFree : tree.LinkFree) (free : tree.FreeForFile place) {name : Name} (plain : name.IsPlain)
  (inside : .separator ∉ name) (last : place.getLast? = some name)

include linkFree free plain inside last

/-- A view of walks that shows nothing of files with one name does not see whether one of them is there. -/
theorem filterMap_walk_set {β : Type} {view : Visit → Option β}
    (blind : ∀ visit, Visit.isApartFrom name visit = false → view visit = none) (start : Path) :
    ((tree.set place (.file content)).walk start).filterMap view = (tree.walk start).filterMap view := by
  rw [filterMap_eq_filterMap_filter _ blind, filter_walk_set linkFree free plain inside last,
    ← filterMap_eq_filterMap_filter _ blind]

theorem filesFrom_set {suffixes : List String} (foreign : ∀ suffix, name.suffix? = some suffix → suffix ∉ suffixes)
    (root start : Path) :
    (tree.set place (.file content)).filesFrom root start suffixes = tree.filesFrom root start suffixes := by
  rw [filesFrom_eq_filterMap, filesFrom_eq_filterMap,
    filterMap_walk_set linkFree free plain inside last fun visit unseen => ?_]
  cases visit with
  | file path =>
      refine Option.filter_eq_none_iff.2 fun other same suffixed => ?_
      cases same
      obtain ⟨called, suffix, named, hasIt, searched⟩ := (hasSuffix_iff path suffixes).1 suffixed
      rw [Visit.isApartFrom, named] at unseen
      have isName : called = name := by simpa using unseen
      rw [isName] at hasIt
      exact foreign suffix hasIt searched
  | directory path => rfl
  | unreadable path fault => rfl
  | loop path ancestor => rfl

theorem searchedAlike_set (foreign : ∀ suffix, name.suffix? = some suffix →
    suffix ∉ sourceSuffixes ∧ suffix ∉ headerSuffixes) : SearchedAlike (tree.set place (.file content)) tree where
  sources := filesFrom_set linkFree free plain inside last fun suffix hasIt => (foreign suffix hasIt).1
  headers := filesFrom_set linkFree free plain inside last fun suffix hasIt => (foreign suffix hasIt).2
  directories := by
    intro root start
    rw [directoriesFrom, directoriesFrom, filterMap_walk_set linkFree free plain inside last fun visit unseen => ?_]
    cases visit <;> first | rfl | cases unseen
  warnings := by
    intro start
    rw [searchWarnings, searchWarnings, isDirectory_set free,
      filterMap_walk_set linkFree free plain inside last fun visit unseen => ?_]
    cases visit <;> first | rfl | cases unseen

end

end FileTree

end Listfile
