import Listfile.Proofs.Descriptor.Exactness
import Listfile.Proofs.FileTree.Visits

set_option autoImplicit false

/-! Entries of a search that are no directories. What leads nowhere adds nothing, and a file adds no directory. But a
file that has a suffix of the search is found where it is named itself, although the warning says that there is no such
search directory. All other files that are found lie below a directory of the search. -/

namespace Listfile.FileTree

variable {tree : FileTree} {start : Path} {suffixes : List String}

/-- Whether a search that begins here finds the file that is named, and not what lies below it. -/
def NamesFile (tree : FileTree) (suffixes : List String) (start : Path) : Prop :=
  (∃ content, tree.entry? start = some (.file content)) ∧ hasSuffix start suffixes = true

theorem NamesFile.not_directory (names : tree.NamesFile suffixes start) : tree.isDirectory start = false := by
  obtain ⟨⟨content, isFile⟩, _suffixed⟩ := names
  rw [isDirectory, isFile]

theorem file_mem_walk_iff (noDirectory : tree.isDirectory start = false) (path : Path) :
    .file path ∈ tree.walk start ↔ path = start ∧ ∃ content, tree.entry? start = some (.file content) := by
  rw [walk_of_not_directory noDirectory]
  split
  · rename_i content isFile
    rw [List.mem_singleton, Visit.file.injEq]
    exact (and_iff_left ⟨content, isFile⟩).symm
  · rename_i noFile
    constructor
    · intro impossible
      cases impossible
    · intro premise
      obtain ⟨_same, content, isFile⟩ := premise
      exact absurd isFile (noFile content)

theorem mem_filesFrom_of_not_directory (noDirectory : tree.isDirectory start = false) (root : Path) (text : String) :
    text ∈ tree.filesFrom root start suffixes ↔ tree.NamesFile suffixes start ∧ scriptPath start root = text := by
  rw [mem_filesFrom]
  simp only [file_mem_walk_iff noDirectory]
  constructor
  · intro premise
    obtain ⟨path, ⟨same, isFile⟩, suffixed, written⟩ := premise
    rw [same] at suffixed written
    exact ⟨⟨isFile, suffixed⟩, written⟩
  · intro premise
    obtain ⟨⟨isFile, suffixed⟩, written⟩ := premise
    exact ⟨start, ⟨rfl, isFile⟩, suffixed, written⟩

theorem filesFrom_eq_nil (noDirectory : tree.isDirectory start = false) (namesNone : ¬tree.NamesFile suffixes start)
    (root : Path) : tree.filesFrom root start suffixes = [] := by
  apply List.eq_nil_iff_forall_not_mem.2
  intro text member
  exact namesNone ((mem_filesFrom_of_not_directory noDirectory root text).1 member).1

theorem directoriesFrom_eq_nil (noDirectory : tree.isDirectory start = false) (root : Path) :
    tree.directoriesFrom root start = [] := by
  rw [directoriesFrom, walk_of_not_directory noDirectory]
  split <;> rfl

theorem exists_below_of_mem_walk (isDirectory : tree.isDirectory start = true) {path : Path}
    (visited : .file path ∈ tree.walk start) : ∃ names, names ≠ [] ∧ path = start.descend names := by
  rcases leadsDown_of_mem_walk isDirectory visited rfl with impossible | ⟨names, below, down⟩
  · cases impossible
  · exact ⟨names, down.filled, below⟩

def onlyDirectories (tree : FileTree) (base : Path) (searched : List String) : List String :=
  searched.filter fun directory => tree.isDirectory (searchStart base directory)

theorem mem_onlyDirectories_iff (tree : FileTree) (base : Path) (searched : List String) (directory : String) :
    directory ∈ tree.onlyDirectories base searched ↔
      directory ∈ searched ∧ tree.isDirectory (searchStart base directory) = true :=
  List.mem_filter

theorem findDirectories_onlyDirectories (tree : FileTree) (root base : Path) (searched : List String) :
    tree.findDirectories root base (tree.onlyDirectories base searched) = tree.findDirectories root base searched := by
  rw [findDirectories, findDirectories, onlyDirectories]
  apply congrArg
  symm
  apply flatMap_eq_flatMap_filter
  intro directory _member noDirectory
  exact directoriesFrom_eq_nil noDirectory root

theorem findFiles_onlyDirectories {base : Path} {searched : List String}
    (namesNone : ∀ directory ∈ searched, ¬tree.NamesFile suffixes (searchStart base directory)) (root : Path) :
    tree.findFiles root base (tree.onlyDirectories base searched) suffixes =
      tree.findFiles root base searched suffixes := by
  rw [findFiles, findFiles, onlyDirectories]
  apply congrArg
  symm
  apply flatMap_eq_flatMap_filter
  intro directory member noDirectory
  exact filesFrom_eq_nil noDirectory (namesNone directory member) root

/-- How much of a search depends on its directories alone. -/
structure KeepsToDirectories (tree : FileTree) (root base : Path) (suffixes searched : List String) : Prop where
  directories : tree.findDirectories root base (tree.onlyDirectories base searched) =
    tree.findDirectories root base searched
  /-- Entries that are no directories can be left out of every search for files, unless one of them is such a file. -/
  files : (∀ part, part ⊆ searched → tree.findFiles root base (tree.onlyDirectories base part) suffixes =
      tree.findFiles root base part suffixes) ↔
    ∀ directory ∈ searched, ¬tree.NamesFile suffixes (searchStart base directory)
  /-- A file is found strictly below a directory of the search, or it is an entry of the search itself. -/
  found : ∀ text, text ∈ tree.findFiles root base searched suffixes ↔
    (∃ directory ∈ tree.onlyDirectories base searched, ∃ names, names ≠ [] ∧
        .file ((searchStart base directory).descend names) ∈ tree.walk (searchStart base directory) ∧
        hasSuffix ((searchStart base directory).descend names) suffixes = true ∧
        scriptPath ((searchStart base directory).descend names) root = text) ∨
      ∃ directory ∈ searched, tree.NamesFile suffixes (searchStart base directory) ∧
        scriptPath (searchStart base directory) root = text

theorem findFiles_onlyDirectories_iff (tree : FileTree) (root base : Path) (suffixes searched : List String) :
    (∀ part, part ⊆ searched → tree.findFiles root base (tree.onlyDirectories base part) suffixes =
        tree.findFiles root base part suffixes) ↔
      ∀ directory ∈ searched, ¬tree.NamesFile suffixes (searchStart base directory) := by
  constructor
  · intro unchanged directory member names
    have alone := unchanged [directory] (List.cons_subset.2 ⟨member, List.nil_subset _⟩)
    have left : tree.onlyDirectories base [directory] = [] :=
      List.filter_cons_of_neg (Bool.eq_false_iff.1 names.not_directory)
    have listed : scriptPath (searchStart base directory) root ∈ tree.findFiles root base [directory] suffixes := by
      rw [findFiles, List.flatMap_singleton, mem_orderedUnion]
      exact Or.inr ((mem_filesFrom_of_not_directory names.not_directory root _).2 ⟨names, rfl⟩)
    rw [← alone, left] at listed
    cases listed
  · intro namesNone part within
    exact findFiles_onlyDirectories (fun directory member => namesNone directory (within member)) root

theorem mem_findFiles_iff_below_or_named (tree : FileTree) (root base : Path) (suffixes searched : List String)
    (text : String) : text ∈ tree.findFiles root base searched suffixes ↔
      (∃ directory ∈ tree.onlyDirectories base searched, ∃ names, names ≠ [] ∧
          .file ((searchStart base directory).descend names) ∈ tree.walk (searchStart base directory) ∧
          hasSuffix ((searchStart base directory).descend names) suffixes = true ∧
          scriptPath ((searchStart base directory).descend names) root = text) ∨
        ∃ directory ∈ searched, tree.NamesFile suffixes (searchStart base directory) ∧
          scriptPath (searchStart base directory) root = text := by
  rw [mem_findFiles]
  simp only [mem_onlyDirectories_iff]
  constructor
  · intro premise
    obtain ⟨directory, inSearched, path, visited, suffixed, written⟩ := premise
    cases isDirectory : tree.isDirectory (searchStart base directory) with
    | true =>
        obtain ⟨names, filled, below⟩ := exists_below_of_mem_walk isDirectory visited
        rw [below] at visited suffixed written
        exact Or.inl ⟨directory, ⟨inSearched, isDirectory⟩, names, filled, visited, suffixed, written⟩
    | false =>
        obtain ⟨same, isFile⟩ := (file_mem_walk_iff isDirectory path).1 visited
        rw [same] at suffixed written
        exact Or.inr ⟨directory, inSearched, ⟨isFile, suffixed⟩, written⟩
  · intro premise
    rcases premise with ⟨directory, ⟨inSearched, _isDirectory⟩, names, _filled, visited, suffixed, written⟩ |
      ⟨directory, inSearched, names, written⟩
    · exact ⟨directory, inSearched, _, visited, suffixed, written⟩
    · exact ⟨directory, inSearched, _, (file_mem_walk_iff names.not_directory _).2 ⟨rfl, names.1⟩, names.2, written⟩

/-- Every search for directories depends on its directories alone. A search for files does so if none of its entries
is a file that it looks for. -/
theorem searches_keepToDirectories (tree : FileTree) (root base : Path) (suffixes searched : List String) :
    tree.KeepsToDirectories root base suffixes searched where
  directories := findDirectories_onlyDirectories tree root base searched
  files := findFiles_onlyDirectories_iff tree root base suffixes searched
  found := mem_findFiles_iff_below_or_named tree root base suffixes searched

/-- A source file that is an entry of the search is found, and it is no directory. -/
theorem not_keptToDirectories_namedFile :
    deepTree.isDirectory (searchStart deepRoot "a/sub/f.c") = false ∧
      deepTree.findFiles deepRoot deepRoot ["a/sub/f.c"] ["c"] = ["a/sub/f.c"] ∧
      deepTree.findFiles deepRoot deepRoot (deepTree.onlyDirectories deepRoot ["a/sub/f.c"]) ["c"] = [] :=
  ⟨by cbv, by cbv, by cbv⟩

end Listfile.FileTree
