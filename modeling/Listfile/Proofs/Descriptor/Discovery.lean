import Listfile.Descriptor.Discovery
import Listfile.Proofs.OrderedUnion

set_option autoImplicit false

/-! What the searches of a file tree find: exactly what their walks meet, in the form of the listfile. -/

namespace Listfile.FileTree

theorem mem_filesFrom (tree : FileTree) (root start : Path) (suffixes : List String) (text : String) :
    text ∈ tree.filesFrom root start suffixes ↔
      ∃ path, .file path ∈ tree.walk start ∧ hasSuffix path suffixes = true ∧ scriptPath path root = text := by
  simp only [filesFrom, List.mem_map, List.mem_filter, List.mem_filterMap]
  constructor
  · intro premise
    obtain ⟨path, ⟨⟨visit, visited, isFile⟩, suffixed⟩, written⟩ := premise
    cases visit <;> cases isFile
    exact ⟨path, visited, suffixed, written⟩
  · intro premise
    obtain ⟨path, visited, suffixed, written⟩ := premise
    exact ⟨path, ⟨⟨_, visited, rfl⟩, suffixed⟩, written⟩

theorem mem_findFiles (tree : FileTree) (root base : Path) (directories suffixes : List String) (text : String) :
    text ∈ tree.findFiles root base directories suffixes ↔
      ∃ directory ∈ directories, ∃ path, .file path ∈ tree.walk (searchStart base directory) ∧
        hasSuffix path suffixes = true ∧ scriptPath path root = text := by
  simp only [findFiles, mem_orderedUnion, List.not_mem_nil, false_or, List.mem_flatMap, mem_filesFrom]

theorem mem_findDirectories (tree : FileTree) (root base : Path) (searched : List String) (text : String) :
    text ∈ tree.findDirectories root base searched ↔
      ∃ directory ∈ searched, ∃ path, .directory path ∈ tree.walk (searchStart base directory) ∧
        scriptPath path root = text := by
  simp only [findDirectories, mem_orderedUnion, List.not_mem_nil, false_or, List.mem_flatMap, directoriesFrom,
    List.mem_map, List.mem_filterMap]
  refine exists_congr fun directory => and_congr_right fun _inSearched => ?_
  constructor
  · intro premise
    obtain ⟨path, ⟨visit, visited, isDirectory⟩, written⟩ := premise
    cases visit <;> cases isDirectory
    exact ⟨path, visited, written⟩
  · intro premise
    obtain ⟨path, visited, written⟩ := premise
    exact ⟨path, ⟨_, visited, rfl⟩, written⟩

theorem findFiles_ne_nil_iff (tree : FileTree) (root base : Path) (directories suffixes : List String) :
    tree.findFiles root base directories suffixes ≠ [] ↔
      ∃ directory ∈ directories, ∃ path, .file path ∈ tree.walk (searchStart base directory) ∧
        hasSuffix path suffixes = true := by
  constructor
  · intro filled
    obtain ⟨text, member⟩ := List.exists_mem_of_ne_nil _ filled
    obtain ⟨directory, inDirectories, path, visited, suffixed, _written⟩ := (mem_findFiles _ _ _ _ _ _).1 member
    exact ⟨directory, inDirectories, path, visited, suffixed⟩
  · intro premise
    obtain ⟨directory, inDirectories, path, visited, suffixed⟩ := premise
    exact List.ne_nil_of_mem ((mem_findFiles _ _ _ _ _ _).2
      ⟨directory, inDirectories, path, visited, suffixed, rfl⟩)

theorem findFiles_nodup (tree : FileTree) (root base : Path) (directories suffixes : List String) :
    (tree.findFiles root base directories suffixes).Nodup :=
  orderedUnion_nodup List.nodup_nil _

theorem findDirectories_nodup (tree : FileTree) (root base : Path) (directories : List String) :
    (tree.findDirectories root base directories).Nodup :=
  orderedUnion_nodup List.nodup_nil _

end Listfile.FileTree
