import Listfile.Proofs.Descriptor.Searches
import Listfile.Proofs.FileTree.Visits
import Listfile.Proofs.Path.Ends
import Listfile.Proofs.Project.Augmentation
import Listfile.Proofs.Script.Lists
import Mathlib.Algebra.Module.Submodule.Lattice

-- The Mathlib file states the equations of `≤` that `cbv` evaluates with.
set_option autoImplicit false

/-! How paths that searches found are written. What a search finds through relative directories lies below the root, and
its text is an entry of a list. It is written below the source directory of the project, unless its text is taken for
something else: for an absolute path where the first name begins with a backslash, or for a variable reference, which
happens to directories only. -/

namespace Listfile

open Script (WrittenList qualify)

def sourceDirectory : String := variableReference "PROJECT_SOURCE_DIR"

theorem qualify_eq_iff (entry : String) : qualify entry = sourceDirectory ++ "/" ++ entry ↔
    isAbsoluteEntry entry = false ∧ isVariableReference entry = false := by
  have longer : entry ≠ sourceDirectory ++ "/" ++ entry := by
    intro same
    have lengths := congrArg String.length same
    rw [String.length_append, String.length_append] at lengths
    have one : "/".length = 1 := rfl
    omega
  rw [qualify]
  split
  · rename_i stands
    refine iff_of_false longer fun relative => ?_
    rw [relative.1, relative.2] at stands
    cases stands
  · rename_i relative
    rw [Bool.or_eq_true, not_or, Bool.not_eq_true, Bool.not_eq_true] at relative
    exact iff_of_true rfl relative.symm

theorem qualify_scriptPath_iff (root : Path) {path : Path} (relative : path.isAbsolute = false) :
    qualify (scriptPath (root.join path) root) = sourceDirectory ++ "/" ++ scriptPath (root.join path) root ↔
      ¬path.LooksAbsolute ∧ ¬path.LooksReferential := by
  rw [qualify_eq_iff, ← Path.isAbsoluteEntry_scriptPath_iff root relative,
    ← Path.isVariableReference_scriptPath_iff root relative, Bool.not_eq_true, Bool.not_eq_true]

theorem Name.getLast?_of_suffix? {name : Name} {suffix : String} (hasIt : name.suffix? = some suffix)
    (filled : suffix ≠ "") : suffix.toList.getLast? = name.getLast?.map PathUnit.shown := by
  obtain ⟨ending, isExtension, isText⟩ := Option.bind_eq_some_iff.1 hasIt
  have shownEnding : suffix.toList = ending.map PathUnit.shown := by
    rw [text?] at isText
    split at isText
    · rw [← Option.some.inj isText, shown, String.toList_ofList]
    · cases isText
  have behindDot : ending = (name.reverse.takeWhile (· ≠ PathUnit.dot)).reverse := by
    rw [extension?] at isExtension
    split at isExtension
    · exact (Option.some.inj isExtension).symm
    · cases isExtension
  have filledEnding : ending ≠ [] := by
    intro empty
    rw [empty] at shownEnding
    exact filled (String.toList_eq_nil_iff.1 shownEnding)
  rw [shownEnding, List.getLast?_map]
  rw [behindDot] at filledEnding ⊢
  rw [List.getLast?_reverse, ← List.head?_reverse]
  cases backwards : name.reverse with
  | nil => rfl
  | cons last others =>
      rw [backwards, List.takeWhile_cons] at filledEnding
      rw [List.takeWhile_cons]
      split
      · rfl
      · rename_i isDot
        rw [if_neg isDot] at filledEnding
        exact absurd rfl filledEnding

theorem Path.fileName?_join (root : Path) {path : Path} (relative : path.isAbsolute = false) {before : List Component}
    {name : Name} (moves : path.moves = before ++ [.normal name]) : (root.join path).fileName? = some name := by
  have last : (root.join path).components.getLast? = some (.normal name) := by
    change ((root.join path).leadingComponents ++ (root.join path).moves).getLast? = some (.normal name)
    rw [moves_join root relative, moves, ← List.append_assoc, ← List.append_assoc, List.getLast?_concat]
  rw [fileName?, last]

/-- Whether no suffix is such that a name with it could end a variable reference. -/
def ClosesNothing (suffixes : List String) : Prop :=
  ∀ suffix ∈ suffixes, suffix ≠ "" ∧ suffix.toList.getLast? ≠ some '\x7d'

theorem not_looksReferential_of_hasSuffix {suffixes : List String} (closes : ClosesNothing suffixes) {root path : Path}
    (relative : path.isAbsolute = false) (suffixed : hasSuffix (root.join path) suffixes = true) :
    ¬path.LooksReferential := by
  intro looks
  obtain ⟨before, name, moves, front, ends⟩ := looks.ends
  obtain ⟨called, suffix, isName, hasIt, searched⟩ := (hasSuffix_iff _ _).1 suffixed
  rw [Path.fileName?_join root relative moves] at isName
  obtain ⟨filled, notClosed⟩ := closes suffix searched
  rw [Name.getLast?_of_suffix? hasIt filled, ← Option.some.inj isName, ← ends] at notClosed
  refine notClosed ?_
  rw [List.getLast?_append_of_ne_nil _ (by decide)]
  rfl

/-- A search and the list that its finds are on. Only a search for files has suffixes. -/
structure ListSearch where
  base : Path
  directories : List String
  suffixes? : Option (List String)
  list : WrittenList

namespace ListSearch

/-- Whether a search finds a path through one of its directories. -/
def Finds (tree : FileTree) (search : ListSearch) (directory : String) (path : Path) : Prop :=
  match search.suffixes? with
  | some suffixes => .file path ∈ tree.walk (searchStart search.base directory) ∧ hasSuffix path suffixes = true
  | none => .directory path ∈ tree.walk (searchStart search.base directory)

/-- How a path below the root is written in a list. -/
structure WritesBelow (root : Path) (project : Project) (search : ListSearch) (path inner : Path) : Prop where
  relative : inner.isAbsolute = false
  below : path = root.join inner
  listed : scriptPath path root ∈ search.list.entries
  line : "\t" ++ qualify (scriptPath path root) ∈ search.list.lines
  written : search.list.lines <:+: project.scriptLines
  qualified : qualify (scriptPath path root) = sourceDirectory ++ "/" ++ scriptPath path root ↔
    ¬inner.LooksAbsolute ∧ ¬inner.LooksReferential
  notReferential : search.suffixes? ≠ none → ¬inner.LooksReferential

/-- Whatever a search finds through relative directories is written below the root. -/
def WritesFound (tree : FileTree) (root : Path) (project : Project) (search : ListSearch) : Prop :=
  ∀ directory ∈ search.directories, isAbsoluteEntry directory = false →
    ∀ path, search.Finds tree directory path → ∃ inner, search.WritesBelow root project path inner

variable {tree : FileTree} {root : Path} {project : Project} {search : ListSearch}

theorem Finds.exists_visit {directory : String} {path : Path} (finds : search.Finds tree directory path) :
    ∃ visit ∈ tree.walk (searchStart search.base directory), visit.found? = some path := by
  rw [Finds] at finds
  split at finds
  · exact ⟨_, finds.1, rfl⟩
  · exact ⟨_, finds, rfl⟩

def found (tree : FileTree) (root : Path) (search : ListSearch) : List String :=
  match search.suffixes? with
  | some suffixes => tree.findFiles root search.base search.directories suffixes
  | none => tree.findDirectories root search.base search.directories

theorem Finds.mem_found {directory : String} (inDirectories : directory ∈ search.directories) {path : Path}
    (finds : search.Finds tree directory path) : scriptPath path root ∈ search.found tree root := by
  rw [Finds] at finds
  rw [found]
  split
  · rename_i suffixes searched
    rw [searched] at finds
    exact (FileTree.mem_findFiles _ _ _ _ _ _).2 ⟨directory, inDirectories, path, finds.1, finds.2, rfl⟩
  · rename_i searched
    rw [searched] at finds
    exact (FileTree.mem_findDirectories _ _ _ _ _).2 ⟨directory, inDirectories, path, finds, rfl⟩

theorem line_mem (list : WrittenList) {entry : String} (listed : entry ∈ list.entries) :
    "\t" ++ qualify entry ∈ list.lines := by
  rw [WrittenList.lines, Script.listLines]
  exact List.mem_append_left _ (List.mem_append_right _ (List.mem_map_of_mem listed))

/-- A search writes what it finds if it begins below the root, and if its list is written and has all that it finds. -/
theorem WritesFound.of_lists (wellFormed : tree.WellFormed)
    (below : ∀ directory, isAbsoluteEntry directory = false →
      ∃ inner : Path, inner.isAbsolute = false ∧ searchStart search.base directory = root.join inner)
    (closes : ∀ suffixes, search.suffixes? = some suffixes → ClosesNothing suffixes)
    (listed : search.found tree root ⊆ search.list.entries)
    (written : search.list.entries ≠ [] → search.list ∈ project.lists) : search.WritesFound tree root project := by
  intro directory inDirectories relativeDirectory path finds
  obtain ⟨start, relativeStart, atStart⟩ := below directory relativeDirectory
  obtain ⟨visit, visited, found⟩ := finds.exists_visit
  obtain ⟨names, downwards, proper⟩ := FileTree.exists_descend_of_mem_walk wellFormed visited found
  rw [atStart, Path.join_descend root start proper] at downwards
  have relative : (start.descend names).isAbsolute = false :=
    (Path.isAbsolute_descend start proper).trans relativeStart
  have entry := listed (finds.mem_found inDirectories)
  refine ⟨start.descend names, ?_⟩
  exact
    { relative := relative
      below := downwards
      listed := entry
      line := line_mem search.list entry
      written := Project.infix_of_mem_lists (written (List.ne_nil_of_mem entry))
      qualified := by
        rw [downwards]
        exact qualify_scriptPath_iff root relative
      notReferential := by
        intro forFiles
        obtain ⟨suffixes, searched⟩ := Option.ne_none_iff_exists'.1 forFiles
        rw [Finds, searched, downwards] at finds
        exact not_looksReferential_of_hasSuffix (closes suffixes searched) relative finds.2 }

end ListSearch

/-! ### Projects -/

def OutputParts.searches (root : Path) (parts : OutputParts) (unit : OutputUnit) : List ListSearch :=
  [⟨root, parts.sourceDirectories, some sourceSuffixes, ⟨unit.sourcesVariable, unit.sources⟩⟩,
    ⟨root, parts.headerDirectories, some headerSuffixes, ⟨unit.sourcesVariable, unit.sources⟩⟩,
    ⟨root, parts.searchedDirectories, none, ⟨includeVariable unit.name, unit.includeDirectories⟩⟩]

def LibraryParts.searches (root : Path) (parts : LibraryParts) (library : ImportedLibrary) : List ListSearch :=
  [⟨parts.base root, parts.searchedDirectories, none, ⟨library.includeVariable, library.includeDirectories⟩⟩,
    ⟨parts.base root, parts.searchedDirectories, some headerSuffixes, ⟨library.headerVariable, library.headerFiles⟩⟩]

theorem closesNothing_sourceSuffixes : ClosesNothing sourceSuffixes := by
  rw [ClosesNothing]
  decide

theorem closesNothing_headerSuffixes : ClosesNothing headerSuffixes := by
  rw [ClosesNothing]
  decide

section

variable {tree : FileTree} (wellFormed : tree.WellFormed) {root : Path} {project : Project}

include wellFormed

theorem OutputParts.writesFound {parts : OutputParts} {unit : OutputUnit} (isOutput : unit ∈ project.outputs)
    (sources : parts.sources tree root <+: unit.sources)
    (includes : parts.includeDirectories tree root <+: unit.includeDirectories) :
    ∀ search ∈ parts.searches root unit, search.WritesFound tree root project := by
  have below : ∀ directory, isAbsoluteEntry directory = false →
      ∃ inner : Path, inner.isAbsolute = false ∧ searchStart root directory = root.join inner :=
    fun directory relative => ⟨_, (Path.isAbsolute_ofString directory).trans relative, rfl⟩
  have writtenSources : ⟨unit.sourcesVariable, unit.sources⟩ ∈ project.lists :=
    List.mem_append_right _ (List.mem_flatMap.2 ⟨unit, isOutput, List.mem_cons_self⟩)
  have writtenIncludes : unit.includeDirectories ≠ [] →
      ⟨includeVariable unit.name, unit.includeDirectories⟩ ∈ project.lists := by
    intro filled
    refine List.mem_append_right _ (List.mem_flatMap.2 ⟨unit, isOutput, List.mem_cons_of_mem _ ?_⟩)
    rw [if_neg (by simp [filled])]
    exact List.mem_singleton_self _
  simp only [searches, List.forall_mem_cons]
  refine ⟨?sources, ?headers, ?directories, List.forall_mem_nil _⟩
  case sources =>
    refine .of_lists wellFormed below (fun _suffixes same => Option.some.inj same ▸ closesNothing_sourceSuffixes) ?_
      fun _filled => writtenSources
    intro text isFound
    exact sources.subset ((mem_orderedUnion _ _ _).2 (Or.inl ((mem_orderedUnion _ _ _).2 (Or.inr isFound))))
  case headers =>
    refine .of_lists wellFormed below (fun _suffixes same => Option.some.inj same ▸ closesNothing_headerSuffixes) ?_
      fun _filled => writtenSources
    intro text isFound
    exact sources.subset ((mem_orderedUnion _ _ _).2 (Or.inr isFound))
  case directories =>
    refine .of_lists wellFormed below (fun _suffixes impossible => nomatch impossible) ?_ writtenIncludes
    intro text isFound
    exact includes.subset ((mem_orderedUnion _ _ _).2 (Or.inl isFound))

theorem LibraryParts.writesFound {parts : LibraryParts} {name : String}
    (isLibrary : parts.library tree root name ∈ project.importedLibraries)
    (relativeRoot : isAbsoluteEntry parts.rootDirectory = false) :
    ∀ search ∈ parts.searches root (parts.library tree root name), search.WritesFound tree root project := by
  have below : ∀ directory, isAbsoluteEntry directory = false →
      ∃ inner : Path, inner.isAbsolute = false ∧ searchStart (parts.base root) directory = root.join inner := by
    intro directory relative
    have relativeDirectory := (Path.isAbsolute_ofString directory).trans relative
    refine ⟨(Path.ofString parts.rootDirectory).join (Path.ofString directory), ?_, ?_⟩
    · exact (Path.isAbsolute_join_of_relative _ relativeDirectory).trans
        ((Path.isAbsolute_ofString _).trans relativeRoot)
    · exact Path.join_join root _ relativeDirectory
  have written : ∀ list ∈ (parts.library tree root name).lists, list ∈ project.lists := fun list member =>
    List.mem_append_left _ (List.mem_flatMap.2 ⟨_, isLibrary, member⟩)
  rw [ImportedLibrary.lists, List.forall_mem_cons, List.forall_mem_singleton] at written
  simp only [searches, List.forall_mem_cons]
  refine ⟨?directories, ?headers, List.forall_mem_nil _⟩
  case directories =>
    refine .of_lists wellFormed below (fun _suffixes impossible => nomatch impossible) ?_ fun _filled => written.1
    exact fun text isFound => (mem_orderedUnion _ _ _).2 (Or.inl isFound)
  case headers =>
    refine .of_lists wellFormed below (fun _suffixes same => Option.some.inj same ▸ closesNothing_headerSuffixes) ?_
      fun _filled => written.2
    exact fun text isFound => (mem_orderedUnion _ _ _).2 (Or.inl isFound)

end

/-- What the searches of outputs find, and those of libraries in relative directories, is written below the root. -/
theorem resolveDescriptor_writesFound (tree : FileTree) (wellFormed : tree.WellFormed) (root : Path)
    (descriptor : Json) (project : Project)
    (resolved : (resolveDescriptor tree root descriptor).outcome = .ok project) :
    List.Forall₂ (fun entry unit => ∃ fields parts, entry.2 = .object fields ∧
          OutputParts.ReadFrom ⟨fields, some entry.1⟩ parts ∧
          ∀ search ∈ parts.searches root unit, search.WritesFound tree root project)
        (descriptor.membersUnder Tag.output) project.outputs ∧
      List.Forall₂ (fun entry library => ∃ fields parts, entry.2 = .object fields ∧
          LibraryParts.ReadFrom ⟨fields, some entry.1⟩ parts ∧ (isAbsoluteEntry parts.rootDirectory = false →
            ∀ search ∈ parts.searches root library, search.WritesFound tree root project))
        (descriptor.membersUnder Tag.importedLibraries) project.importedLibraries := by
  obtain ⟨members, units, isObject, read⟩ := (resolveDescriptor_eq_ok_iff _ _ _ _).1 resolved
  rw [isObject]
  constructor
  · obtain ⟨entries, present, _filled, related⟩ := (readOutputs_eq_ok_iff tree root _ units).1 read.unitsRead
    have outputs := read.outputs
    rw [membersUnder_of_present present, outputs, List.forall₂_map_right_iff]
    refine forall₂_imp_of_mem related fun entry _inEntries before inUnits each => ?_
    obtain ⟨fields, isEntry, parts, readParts, _filled, same⟩ := (readOutput_eq_ok_iff _ _ _ _ _).1 each
    have isOutput : before.augment project.importedLibraries project.linkEdges ∈ project.outputs := by
      rw [outputs]
      exact List.mem_map_of_mem inUnits
    refine ⟨fields, parts, isEntry, readParts, parts.writesFound wellFormed isOutput ?_ ?_⟩
    · rw [same]
      exact Project.prefix_orderedUnion _ _
    · rw [same]
      exact Project.prefix_orderedUnion _ _
  · obtain ⟨entries, present, related⟩ := (readLibraries_eq_ok_iff tree root _ _).1 read.libraries
    rw [membersUnder_of_optional present]
    refine forall₂_imp_of_mem related fun entry _inEntries library isLibrary each => ?_
    obtain ⟨fields, isEntry, parts, readParts, _filled, same⟩ := (readLibrary_eq_ok_iff _ _ _ _ _).1 each
    rw [same] at isLibrary ⊢
    exact ⟨fields, parts, isEntry, readParts, fun relativeRoot => parts.writesFound wellFormed isLibrary relativeRoot⟩

/-- A source file whose name begins with a backslash, a directory that is named like a reference, and a library. -/
def oddTree : FileTree :=
  ⟨[(["proj"].map Name.ofString, .directory), (["proj", "\\x.c"].map Name.ofString, .file (.text "")),
    (["proj", variableReference "gen"].map Name.ofString, .directory), (["proj", "dep"].map Name.ofString, .directory),
    (["proj", "dep", "z.h"].map Name.ofString, .file (.text ""))], []⟩

def oddRoot : Path := Path.ofString "proj"

theorem wellFormed_oddTree : oddTree.WellFormed where
  names := by decide +kernel
  parents := by decide +kernel

def oddSample : Json :=
  Schema.descriptorOf [("debug", Schema.targetEntry [] [])]
    [("app", .object [(Tag.kind, .string "executable"), (Tag.sourceDirectories, .texts ["."]),
        (Tag.headerDirectories, .texts ["dep"]), (Tag.searchedIncludeDirectories, .texts [variableReference "gen"]),
        (Tag.executableDirectory, .string "bin")])]
    [("zip", .object [(Tag.kind, .string "static"), (Tag.rootDirectory, .string "dep"),
      (Tag.libraryFiles, .texts ["libz.a"]), (Tag.searchedIncludeDirectories, .texts ["."])])]
    []

theorem resolveDescriptor_oddSample :
    ∃ project, (resolveDescriptor oddTree oddRoot oddSample).outcome = .ok project ∧
      project.outputs = [⟨"app", .executable "bin", ["/x.c", "dep/z.h"], [variableReference "gen"]⟩] ∧
      project.importedLibraries = [⟨"zip", .static, "dep", ["dep/libz.a"], ["dep"], ["dep/z.h"]⟩] := by
  obtain ⟨project, resolved, entries⟩ :=
    (map_eq_ok_iff (fun project : Project => (project.outputs, project.importedLibraries)) _ _).1
      (show (resolveDescriptor oddTree oddRoot oddSample).outcome.map
          (fun project => (project.outputs, project.importedLibraries)) =
        .ok ([⟨"app", .executable "bin", ["/x.c", "dep/z.h"], [variableReference "gen"]⟩],
          [⟨"zip", .static, "dep", ["dep/libz.a"], ["dep"], ["dep/z.h"]⟩]) by cbv)
  exact ⟨project, resolved, Prod.mk.inj entries⟩

theorem resolveDescriptor_writesFound_oddSample :
    ∃ project, (resolveDescriptor oddTree oddRoot oddSample).outcome = .ok project ∧
      project.outputs = [⟨"app", .executable "bin", ["/x.c", "dep/z.h"], [variableReference "gen"]⟩] ∧
      project.importedLibraries = [⟨"zip", .static, "dep", ["dep/libz.a"], ["dep"], ["dep/z.h"]⟩] ∧
      List.Forall₂ (fun entry unit => ∃ fields parts, entry.2 = .object fields ∧
          OutputParts.ReadFrom ⟨fields, some entry.1⟩ parts ∧
          ∀ search ∈ parts.searches oddRoot unit, search.WritesFound oddTree oddRoot project)
        (oddSample.membersUnder Tag.output) project.outputs ∧
      List.Forall₂ (fun entry library => ∃ fields parts, entry.2 = .object fields ∧
          LibraryParts.ReadFrom ⟨fields, some entry.1⟩ parts ∧ (isAbsoluteEntry parts.rootDirectory = false →
            ∀ search ∈ parts.searches oddRoot library, search.WritesFound oddTree oddRoot project))
        (oddSample.membersUnder Tag.importedLibraries) project.importedLibraries := by
  obtain ⟨project, resolved, outputs, libraries⟩ := resolveDescriptor_oddSample
  exact ⟨project, resolved, outputs, libraries, resolveDescriptor_writesFound _ wellFormed_oddTree _ _ _ resolved⟩

/-- The source file is written as an absolute path, and the directory as a reference to a variable. -/
theorem not_writtenBelow_oddSample :
    ∃ project, (resolveDescriptor oddTree oddRoot oddSample).outcome = .ok project ∧
      oddTree.findFiles oddRoot oddRoot ["."] sourceSuffixes = ["/x.c"] ∧
      oddTree.findDirectories oddRoot oddRoot [variableReference "gen"] = [variableReference "gen"] ∧
      (project.outputs.flatMap OutputUnit.lists).map (·.lines.drop 2) =
        [["\t/x.c", "\t" ++ sourceDirectory ++ "/dep/z.h", ")"], ["\t" ++ variableReference "gen", ")"]] := by
  obtain ⟨project, resolved, outputs, _libraries⟩ := resolveDescriptor_oddSample
  refine ⟨project, resolved, by cbv, by cbv, ?_⟩
  rw [outputs]
  rfl

end Listfile
