import Listfile.Project.Document
import Listfile.Proofs.Descriptor.Resolution
import Listfile.Proofs.Descriptor.Searches
import Listfile.Proofs.FileTree.WellFormed
import Listfile.Proofs.Generation.Atomicity
import Mathlib.Algebra.Module.Submodule.Lattice
import Mathlib.Computability.Primrec.List
import Mathlib.Data.List.Permutation

-- The Mathlib files state the equations of `List.lookup`, `Prod.snd` and `≤` that `cbv` evaluates with.
set_option autoImplicit false

/-! Running again. Without links, the listfile that a run leaves behind is not read by the next run: no search looks for
its suffix, and no directory test and no descriptor is at its place. The next run resolves the same project and writes
the same bytes to the same place. A run also keeps what is asked of a tree for searches to be exact. -/

namespace Listfile

open FileTree (FreeForFile LinkFree)

def listfileSegment : Name := Name.ofString listfileName

theorem listfileSegment_isPlain : listfileSegment.IsPlain := by decide

theorem separator_not_mem_listfileSegment : .separator ∉ listfileSegment := by decide

theorem listfileSegment_suffix : ∀ suffix, listfileSegment.suffix? = some suffix →
    suffix ∉ sourceSuffixes ∧ suffix ∉ headerSuffixes := by
  intro suffix hasIt
  have isText : listfileSegment.suffix? = some "txt" := rfl
  rw [isText, Option.some.injEq] at hasIt
  rw [← hasIt]
  decide

theorem fileName?_listfilePath (root : Path) : (listfilePath root).fileName? = some listfileSegment := by
  obtain ⟨front, written⟩ := root.segments_join_ofName separator_not_mem_listfileSegment
  exact Path.fileName?_of_segments listfileSegment_isPlain written

theorem fileName?_descriptorPath (root : Path) :
    (descriptorPath root).fileName? = some (Name.ofString descriptorFile) := by
  have inside : .separator ∉ Name.ofString descriptorFile := by decide
  obtain ⟨front, written⟩ := root.segments_join_ofName inside
  exact Path.fileName?_of_segments (by decide) written

section

variable {tree : FileTree} {root : Path} {place : Location} {content : Content}

/-- Without links, the listfile of a root is where its name says. -/
theorem getLast?_of_writingPlaceOf (linkFree : tree.LinkFree)
    (creatable : tree.writingPlaceOf (listfilePath root) = .ok place) : place.getLast? = some listfileSegment := by
  have free := FileTree.free_of_writingPlaceOf creatable
  obtain ⟨left, arrived⟩ := FileTree.lookup_of_writingPlaceOf (.text "") creatable
  exact (linkFree.set_file free _).getLast?_of_lookup arrived (free.set_file _).not_directory (fileName?_listfilePath root)

/-- A file is read as before if its path does not end in the name of the new one. -/
theorem readText_set (linkFree : tree.LinkFree) (free : tree.FreeForFile place) {path : Path} {name : Name}
    {text : String} (named : path.fileName? = some name) (apart : place.getLast? ≠ some name)
    (before : tree.readText path = .ok text) : (tree.set place (.file content)).readText path = .ok text := by
  rw [FileTree.readText] at before ⊢
  cases arrived : tree.lookup path with
  | error fault =>
      rw [arrived] at before
      cases before
  | ok arrival =>
      rw [arrived] at before
      rw [FileTree.lookup_set free arrived]
      dsimp only at before ⊢
      have elsewhere : arrival.location ≠ place := by
        intro atPlace
        have isFile : tree.entryAt arrival.location ≠ some .directory := by
          intro isDirectory
          rw [isDirectory] at before
          cases before
        rw [← atPlace, linkFree.getLast?_of_lookup arrived isFile named] at apart
        exact apart rfl
      rw [FileTree.entryAt_set_of_ne elsewhere]
      exact before

theorem loadDescriptor_set (linkFree : tree.LinkFree)
    (creatable : tree.writingPlaceOf (listfilePath root) = .ok place) {descriptor : Json}
    (before : loadDescriptor tree root = .ok descriptor) :
    loadDescriptor (tree.set place (.file content)) root = .ok descriptor := by
  have free := FileTree.free_of_writingPlaceOf creatable
  have apart : place.getLast? ≠ some (Name.ofString descriptorFile) := by
    rw [getLast?_of_writingPlaceOf linkFree creatable]
    decide
  rw [loadDescriptor] at before ⊢
  cases read : tree.readText (descriptorPath root) with
  | error fault =>
      rw [read] at before
      cases fault <;> cases before
  | ok text =>
      rw [read] at before
      rw [readText_set linkFree free (fileName?_descriptorPath root) apart read]
      exact before

/-- A project is resolved again as it was, with the same log. -/
theorem resolve_set (linkFree : tree.LinkFree) (creatable : tree.writingPlaceOf (listfilePath root) = .ok place)
    {project : Project} (resolved : (resolve tree root).outcome = .ok project) :
    resolve (tree.set place (.file content)) root = resolve tree root := by
  have free := FileTree.free_of_writingPlaceOf creatable
  have alike : SearchedAlike (tree.set place (.file content)) tree :=
    FileTree.searchedAlike_set linkFree free listfileSegment_isPlain separator_not_mem_listfileSegment
      (getLast?_of_writingPlaceOf linkFree creatable) listfileSegment_suffix
  have sameRoot : checkRoot (tree.set place (.file content)) root = checkRoot tree root := by
    rw [checkRoot, checkRoot, FileTree.isDirectory_set free]
  obtain ⟨_isRoot, descriptor, loaded, _resolved⟩ := (resolve_eq_ok_iff _ _ _).1 resolved
  rw [resolve, resolve, sameRoot, loaded, loadDescriptor_set linkFree creatable loaded]
  simp only [alike.resolveDescriptor_eq]

end

/-- Without links, a run leaves a tree in which the same project is resolved, and in which running again does what was
done before: it succeeds or fails in the same way and leaves the same tree. -/
theorem run_again (tree : FileTree) (root : Path) (linkFree : tree.LinkFree) :
    resolve (Generation.run tree root).tree root = resolve tree root ∧
      Generation.run (Generation.run tree root).tree root = Generation.run tree root := by
  cases resolved : (resolve tree root).outcome with
  | error reason =>
      have unchanged : (Generation.run tree root).tree = tree := by
        rw [Generation.run_of_error resolved]
        rfl
      rw [unchanged]
      exact ⟨rfl, rfl⟩
  | ok project =>
      cases creatable : tree.writingPlaceOf (listfilePath root) with
      | error fault =>
          have unchanged : (Generation.run tree root).tree = tree := by
            rw [Generation.run_of_refused resolved creatable]
            rfl
          rw [unchanged]
          exact ⟨rfl, rfl⟩
      | ok place =>
          have written : (Generation.run tree root).tree = tree.set place (.file (.text project.script)) := by
            rw [Generation.run_of_creatable resolved creatable]
          have again : resolve (tree.set place (.file (.text project.script))) root = resolve tree root :=
            resolve_set linkFree creatable resolved
          rw [written, again]
          refine ⟨rfl, ?_⟩
          have place_again := FileTree.writingPlaceOf_set (.text project.script) creatable
          rw [Generation.run_of_creatable resolved creatable, Generation.run_of_creatable (again ▸ resolved) place_again,
            again, FileTree.set_set]

theorem run_tree_cases (tree : FileTree) (root : Path) :
    (Generation.run tree root).tree = tree ∨ ∃ place content,
      tree.writingPlaceOf (listfilePath root) = .ok place ∧
        (Generation.run tree root).tree = tree.set place (.file content) := by
  cases resolved : (resolve tree root).outcome with
  | error reason =>
      rw [Generation.run_of_error resolved]
      exact Or.inl rfl
  | ok project =>
      cases creatable : tree.writingPlaceOf (listfilePath root) with
      | error fault =>
          rw [Generation.run_of_refused resolved creatable]
          exact Or.inl rfl
      | ok place =>
          rw [Generation.run_of_creatable resolved creatable]
          exact Or.inr ⟨place, _, rfl, rfl⟩

/-- So what is known of searches in well-formed trees without links holds after any number of runs. -/
theorem run_keeps_wellFormed (tree : FileTree) (root : Path) (linkFree : tree.LinkFree) (wellFormed : tree.WellFormed) :
    (Generation.run tree root).tree.LinkFree ∧ (Generation.run tree root).tree.WellFormed := by
  rcases run_tree_cases tree root with unchanged | ⟨place, content, creatable, written⟩
  · rw [unchanged]
    exact ⟨linkFree, wellFormed⟩
  · have free := FileTree.free_of_writingPlaceOf creatable
    have last := getLast?_of_writingPlaceOf linkFree creatable
    have parent : tree.entryAt place.dropLast = some .directory := by
      rcases free with absent | ⟨other, isFile⟩
      · exact ((FileTree.writingPlaceOf_eq_ok_iff _ _ _).1 creatable).2.parent absent
      · have split := List.dropLast_append_getLast? listfileSegment last
        rw [← split] at isFile
        exact (wellFormed.of_entryAt (Option.ne_none_iff_exists'.2 ⟨_, isFile⟩)).1
    rw [written]
    exact ⟨linkFree.set_file free content, wellFormed.set_file free last (by decide +kernel) parent content⟩

/-- A descriptor that makes its own root and the listfile search places. -/
def selfSearchLines : List String :=
  ["\x7b\"min_cmake_version\":\"3\",", "\"project_name\":\"p\",", "\"allowed_c_standards\":[\"11\"],",
    "\"allowed_cpp_standards\":[\"17\"],", "\"targets\":\x7b\"D\":\x7b\"c_flags\":[],", "\"cpp_flags\":[]\x7d\x7d,",
    "\"output\":\x7b\"m\":\x7b", "\"type\":\"executable\",", "\"r_source_dirs\":[\".\",\"CMakeLists.txt\"],",
    "\"r_header_dirs\":[],", "\"r_include_dirs\":[\".\"],", "\"executable_output_dir\":\"\"\x7d\x7d\x7d"]

def selfSearchDescriptor : Json :=
  .object [(Tag.minimumVersion, .string "3"), (Tag.projectName, .string "p"),
    (Tag.allowedCStandards, .texts ["11"]), (Tag.allowedCppStandards, .texts ["17"]),
    (Tag.targets, .object [("D", .object [(Tag.cFlags, .texts []), (Tag.cppFlags, .texts [])])]),
    (Tag.output, .object [("m", .object [(Tag.kind, .string "executable"),
      (Tag.sourceDirectories, .texts [".", listfileName]), (Tag.headerDirectories, .texts []),
      (Tag.searchedIncludeDirectories, .texts ["."]), (Tag.executableDirectory, .string "")])])]

def selfSearchTree (descriptor : String) : FileTree :=
  ⟨[([Name.ofString descriptorFile], .file (.text descriptor)), ([Name.ofString "m.c"], .file (.text ""))], []⟩

def hereRoot : Path := Path.ofString "."

set_option maxRecDepth 20000 in
theorem parse_selfSearchLines : Json.parse (String.join selfSearchLines) = .ok selfSearchDescriptor := by
  have read : Json.readDocument (selfSearchLines.flatMap String.toList) = .ok selfSearchDescriptor := by cbv
  rw [Json.parse, String.toList_join, read]

set_option maxRecDepth 20000 in
theorem resolveDescriptor_selfSearchTree (text : String) :
    (resolveDescriptor (selfSearchTree text) hereRoot selfSearchDescriptor).outcome.toBool = true := by cbv

theorem exists_resolve_selfSearchTree {text : String} (parsed : Json.parse text = .ok selfSearchDescriptor) :
    ∃ project, (resolve (selfSearchTree text) hereRoot).outcome = .ok project := by
  have isRoot : checkRoot (selfSearchTree text) hereRoot = .ok () := by cbv
  have read : (selfSearchTree text).readText (descriptorPath hereRoot) = .ok text := by cbv
  have loaded : loadDescriptor (selfSearchTree text) hereRoot = .ok selfSearchDescriptor := by
    rw [loadDescriptor, read]
    dsimp only
    rw [parsed]
  have resolves := resolveDescriptor_selfSearchTree text
  cases outcome : (resolveDescriptor (selfSearchTree text) hereRoot selfSearchDescriptor).outcome with
  | error reason =>
      rw [outcome] at resolves
      cases resolves
  | ok project => exact ⟨project, (resolve_eq_ok_iff _ _ _).2 ⟨isRoot, selfSearchDescriptor, loaded, outcome⟩⟩

/-- The first run adds the listfile to the files that are searched, and the second one finds what the first found. -/
theorem run_again_selfSearchTree :
    (selfSearchTree (String.join selfSearchLines)).LinkFree ∧
      (Generation.run (selfSearchTree (String.join selfSearchLines)) hereRoot).attempt.outcome =
        .ok (listfilePath hereRoot) ∧
      (∃ project, (resolve (selfSearchTree (String.join selfSearchLines)) hereRoot).outcome = .ok project ∧
        (Generation.run (selfSearchTree (String.join selfSearchLines)) hereRoot).tree =
          (selfSearchTree (String.join selfSearchLines)).set [listfileSegment] (.file (.text project.script))) ∧
      resolve (Generation.run (selfSearchTree (String.join selfSearchLines)) hereRoot).tree hereRoot =
        resolve (selfSearchTree (String.join selfSearchLines)) hereRoot ∧
      Generation.run (Generation.run (selfSearchTree (String.join selfSearchLines)) hereRoot).tree hereRoot =
        Generation.run (selfSearchTree (String.join selfSearchLines)) hereRoot := by
  obtain ⟨project, resolved⟩ := exists_resolve_selfSearchTree parse_selfSearchLines
  generalize String.join selfSearchLines = text at resolved ⊢
  have linkFree : (selfSearchTree text).LinkFree := by
    apply FileTree.linkFree_of_entries
    intro entry member target
    rcases List.mem_cons.1 member with same | later
    · rw [same]
      exact nofun
    · rw [List.mem_singleton.1 later]
      exact nofun
  have creatable : (selfSearchTree text).writingPlaceOf (listfilePath hereRoot) = .ok [listfileSegment] := by cbv
  have written := Generation.run_of_creatable resolved creatable
  exact ⟨linkFree, by rw [written], ⟨project, resolved, by rw [written]⟩, run_again _ _ linkFree⟩

end Listfile
