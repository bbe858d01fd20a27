import Listfile.Proofs.FileTree.Descent
import Listfile.Proofs.FileTree.Visits
import Listfile.Proofs.Project.Soundness
import Mathlib.Algebra.Module.Submodule.Lattice
import Mathlib.Computability.Primrec.List
import Mathlib.Data.List.Permutation

-- The Mathlib files state the equations of `List.lookup`, `Prod.snd` and `≤` that `cbv` evaluates with.
set_option autoImplicit false

/-! Headers of imported libraries and the directories around them. One search of a library finds its headers and
another one finds its include directories. The second finds the directory around every header below a directory of the
search, in any tree with any links. So whoever links a library that has such headers can include them. -/

namespace Listfile

namespace Path

/-- Whether a path leads to the directory that holds what the other path names at its end. -/
def IsAround (around path : Path) : Prop := ∃ name, path.components = around.components ++ [.normal name]

theorem components_child {start : Path} (filled : start.units ≠ []) {name : Name} (proper : name.IsProper) :
    (start.child name).components = start.components ++ [.normal name] := by
  rw [components, child, leadingComponents_join filled (isAbsolute_ofName proper.noSeparator), components,
    List.append_assoc]
  exact congrArg (start.leadingComponents ++ ·) (moves_child start proper)

theorem units_descend_ne_nil {start : Path} (filled : start.units ≠ []) {names : List Name}
    (proper : ∀ name ∈ names, name.IsProper) : (start.descend names).units ≠ [] := by
  induction names generalizing start with
  | nil => exact filled
  | cons name names ih =>
      rw [List.forall_mem_cons] at proper
      exact ih (units_join_ne_nil filled (isAbsolute_ofName proper.1.noSeparator)) proper.2

theorem isAround_descend {start : Path} (filled : start.units ≠ []) {names : List Name} (below : names ≠ [])
    (proper : ∀ name ∈ names, name.IsProper) : (start.descend names.dropLast).IsAround (start.descend names) := by
  have upper : ∀ name ∈ names.dropLast, name.IsProper := fun name member => proper name (List.dropLast_subset _ member)
  have lowest := proper _ (List.getLast_mem below)
  refine ⟨names.getLast below, ?_⟩
  rw [← components_child (units_descend_ne_nil filled upper) lowest]
  conv_lhs => rw [← List.dropLast_append_getLast below, descend_append]
  rfl

theorem IsAround.scriptPath_eq {left right path : Path} (leftAround : left.IsAround path)
    (rightAround : right.IsAround path) (root : Path) : scriptPath left root = scriptPath right root := by
  obtain ⟨leftName, leftComponents⟩ := leftAround
  obtain ⟨rightName, rightComponents⟩ := rightAround
  have same : left.components = right.components :=
    (List.append_inj' (leftComponents.symm.trans rightComponents) rfl).1
  rw [scriptPath, scriptPath, componentsAfter?, componentsAfter?, same]

end Path

namespace FileTree

variable {tree : FileTree}

theorem units_ne_nil_of_isDirectory {start : Path} (isDirectory : tree.isDirectory start = true) :
    start.units ≠ [] := by
  obtain ⟨arrival, arrived, _reached⟩ := (isDirectory_iff tree start).1 isDirectory
  exact ((checkPath_eq_ok_iff start).1 ((lookup_eq_ok_iff _ _ _).1 arrived).1).1.filled

theorem exists_around_mem_walk (wellFormed : tree.WellFormed) {start : Path}
    (isDirectory : tree.isDirectory start = true) {path : Path} (visited : .file path ∈ tree.walk start) :
    ∃ around : Path, around.IsAround path ∧ .directory around ∈ tree.walk start := by
  rcases leadsDown_of_mem_walk isDirectory visited rfl with impossible | ⟨names, below, down⟩
  · cases impossible
  · refine ⟨start.descend names.dropLast, ?_, down.around_mem_walk isDirectory⟩
    rw [below]
    exact Path.isAround_descend (units_ne_nil_of_isDirectory isDirectory) down.filled (down.proper wellFormed)

end FileTree

/-- A header that the search of a library finds below a directory of the search. -/
def LibraryParts.FindsHeader (tree : FileTree) (root : Path) (parts : LibraryParts) (header : Path) : Prop :=
  ∃ directory ∈ parts.searchedDirectories,
    tree.isDirectory (searchStart (parts.base root) directory) = true ∧
      .file header ∈ tree.walk (searchStart (parts.base root) directory) ∧ hasSuffix header headerSuffixes = true

theorem LibraryParts.FindsHeader.exists_around {tree : FileTree} (wellFormed : tree.WellFormed) {root : Path}
    {parts : LibraryParts} {header : Path} (finds : parts.FindsHeader tree root header) (name : String) :
    ∃ around : Path, around.IsAround header ∧
      scriptPath around root ∈ (parts.library tree root name).includeDirectories := by
  obtain ⟨directory, inSearched, isDirectory, visited, _suffixed⟩ := finds
  obtain ⟨around, isAround, reached⟩ := FileTree.exists_around_mem_walk wellFormed isDirectory visited
  refine ⟨around, isAround, (mem_orderedUnion _ _ _).2 (Or.inl ?_)⟩
  exact (FileTree.mem_findDirectories _ _ _ _ _).2 ⟨directory, inSearched, around, reached, rfl⟩

def Json.Links (descriptor : Json) (source target : String) : Prop :=
  ∃ listed : List String,
    (source, .array (listed.map .string)) ∈ descriptor.membersUnder Tag.linkLibraries ∧ target ∈ listed

namespace Project.ReadFrom

variable {tree : FileTree} {root : Path} {members : List (String × Json)} {units : List OutputUnit} {project : Project}

theorem resolveLink_of_library (read : project.ReadFrom tree root ⟨members, none⟩ units) {library : ImportedLibrary}
    (isLibrary : library ∈ project.importedLibraries) :
    resolveLink units project.importedLibraries library.name = .ok (.ofImported library) := by
  obtain ⟨_outputNames, libraryNames, apart⟩ := List.nodup_append'.1 read.entryNames_nodup
  have noOutput : units.find? (·.name = library.name) = none := by
    apply List.find?_eq_none.2
    intro unit inUnits sameName
    have amongOutputs : library.name ∈ project.outputs.map OutputUnit.name := by
      rw [read.outputs_names, ← of_decide_eq_true sameName]
      exact List.mem_map_of_mem inUnits
    exact apart amongOutputs (List.mem_map_of_mem isLibrary)
  exact (resolveLink_eq_ok_iff _ _ _ _).2
    (Or.inr ⟨noOutput, library, find?_eq_some_of_nodup libraryNames isLibrary, rfl⟩)

theorem addedLibrary?_of_library (read : project.ReadFrom tree root ⟨members, none⟩ units) {library : ImportedLibrary}
    (isLibrary : library ∈ project.importedLibraries) (filled : library.includeDirectories ≠ []) :
    addedLibrary? project.importedLibraries (.ofImported library) = some library := by
  obtain ⟨_outputNames, libraryNames, _apart⟩ := List.nodup_append'.1 read.entryNames_nodup
  change ((project.importedLibraries.find? (·.name = library.name)).bind fun other =>
    if other.includeDirectories.isEmpty then none else some other) = some library
  rw [find?_eq_some_of_nodup libraryNames isLibrary, Option.bind_some, if_neg (mt List.isEmpty_iff.1 filled)]

theorem mem_addedLibraries_of_links (read : project.ReadFrom tree root ⟨members, none⟩ units)
    {library : ImportedLibrary} (isLibrary : library ∈ project.importedLibraries)
    (filled : library.includeDirectories ≠ []) {source : String}
    (links : (Json.object members).Links source library.name) :
    library ∈ addedLibraries project.importedLibraries project.linkEdges source := by
  obtain ⟨listed, inLinks, named⟩ := links
  obtain ⟨entries, present, edgesRead⟩ := (readLinkEdges_eq_ok_iff _ _ _ _).1 read.edges
  rw [membersUnder_of_optional present] at inLinks
  obtain ⟨edge, inEdges, edgeRead⟩ := forall₂_exists_right edgesRead inLinks
  obtain ⟨_known, fromSource, others, targets, isList, related, sameTargets⟩ :=
    (readLinkEdge_eq_ok_iff _ _ _ _ _ _).1 edgeRead
  have sameListed : listed = others :=
    List.map_injective_iff.2 (fun _left _right same => Json.string.inj same) (Json.array.inj isList)
  rw [sameListed] at named
  obtain ⟨target, inTargets, found⟩ := forall₂_exists_right related named
  have isImported : target = .ofImported library :=
    Except.ok.inj (found.symm.trans (read.resolveLink_of_library isLibrary))
  refine List.mem_flatMap.2 ⟨edge, List.mem_filter.2 ⟨inEdges, decide_eq_true fromSource⟩, ?_⟩
  refine List.mem_filterMap.2 ⟨target, ?_, ?_⟩
  · rw [sameTargets, mem_orderedUnion]
    exact Or.inr inTargets
  · rw [isImported]
    exact read.addedLibrary?_of_library isLibrary filled

theorem references_of_links (read : project.ReadFrom tree root ⟨members, none⟩ units) {library : ImportedLibrary}
    (isLibrary : library ∈ project.importedLibraries) (filled : library.includeDirectories ≠ []) {unit : OutputUnit}
    (isOutput : unit ∈ project.outputs) (links : (Json.object members).Links unit.name library.name) :
    variableReference library.headerVariable ∈ unit.sources ∧
      variableReference library.includeVariable ∈ unit.includeDirectories := by
  have added := read.mem_addedLibraries_of_links isLibrary filled links
  rw [read.outputs] at isOutput
  obtain ⟨before, _inUnits, same⟩ := List.mem_map.1 isOutput
  rw [← same] at added ⊢
  constructor
  · exact (mem_orderedUnion _ _ _).2 (Or.inr (List.mem_map_of_mem added))
  · exact (mem_orderedUnion _ _ _).2 (Or.inr (List.mem_map_of_mem added))

end Project.ReadFrom

/-- What follows for a library of a project from the headers that its search finds below directories. -/
structure LibraryParts.OffersHeaders (tree : FileTree) (root : Path) (descriptor : Json) (project : Project)
    (parts : LibraryParts) (library : ImportedLibrary) : Prop where
  found : ∀ header, parts.FindsHeader tree root header → scriptPath header root ∈ library.headerFiles
  around : ∀ header, parts.FindsHeader tree root header → ∃ around : Path, around.IsAround header
  included : ∀ header, parts.FindsHeader tree root header → ∀ around : Path, around.IsAround header →
    scriptPath around root ∈ library.includeDirectories
  filled : ∀ header, parts.FindsHeader tree root header → library.includeDirectories ≠ []
  linked : ∀ header, parts.FindsHeader tree root header → ∀ unit ∈ project.outputs,
    descriptor.Links unit.name library.name → variableReference library.headerVariable ∈ unit.sources ∧
      variableReference library.includeVariable ∈ unit.includeDirectories

/-- The directories around the headers of a library are include directories of the library, and every output that links
it has the references to both. -/
theorem resolveDescriptor_offersHeaders (tree : FileTree) (wellFormed : tree.WellFormed) (root : Path)
    (descriptor : Json) (project : Project)
    (resolved : (resolveDescriptor tree root descriptor).outcome = .ok project) :
    List.Forall₂ (fun entry library => ∃ fields parts, entry.2 = .object fields ∧
        LibraryParts.ReadFrom ⟨fields, some entry.1⟩ parts ∧ library.name = entry.1 ∧
        parts.OffersHeaders tree root descriptor project library)
      (descriptor.membersUnder Tag.importedLibraries) project.importedLibraries := by
  obtain ⟨members, units, isObject, read⟩ := (resolveDescriptor_eq_ok_iff _ _ _ _).1 resolved
  obtain ⟨entries, present, related⟩ := (readLibraries_eq_ok_iff tree root _ _).1 read.libraries
  rw [isObject, membersUnder_of_optional present]
  refine forall₂_imp_of_mem related fun entry _inEntries library isLibrary each => ?_
  obtain ⟨fields, isEntry, parts, readParts, _filled, same⟩ := (readLibrary_eq_ok_iff _ _ _ _ _).1 each
  have included : ∀ header, parts.FindsHeader tree root header → ∀ around : Path, around.IsAround header →
      scriptPath around root ∈ library.includeDirectories := by
    intro header finds around isAround
    obtain ⟨other, otherAround, listed⟩ := finds.exists_around wellFormed entry.1
    rw [isAround.scriptPath_eq otherAround, same]
    exact listed
  have filled : ∀ header, parts.FindsHeader tree root header → library.includeDirectories ≠ [] := by
    intro header finds
    obtain ⟨around, isAround, _listed⟩ := finds.exists_around wellFormed entry.1
    exact List.ne_nil_of_mem (included header finds around isAround)
  refine ⟨fields, parts, isEntry, readParts, by rw [same]; rfl, ?_⟩
  exact
    { found := by
        intro header finds
        obtain ⟨directory, inSearched, _isDirectory, visited, suffixed⟩ := finds
        rw [same]
        exact (mem_orderedUnion _ _ _).2 (Or.inl ((FileTree.mem_findFiles _ _ _ _ _ _).2
          ⟨directory, inSearched, header, visited, suffixed, rfl⟩))
      around := fun header finds => (finds.exists_around wellFormed entry.1).imp fun _around premise => premise.1
      included := included
      filled := filled
      linked := fun header finds unit isOutput links =>
        read.references_of_links isLibrary (filled header finds) isOutput links }

/-- A library whose directory holds a header, a link to a directory with another header, and a link to itself. -/
def headerTree : FileTree :=
  ⟨[(["proj"].map Name.ofString, .directory), (["proj", "more"].map Name.ofString, .directory),
    (["proj", "more", "m.h"].map Name.ofString, .file (.text "")), (["proj", "zip"].map Name.ofString, .directory),
    (["proj", "zip", "api"].map Name.ofString, .directory),
    (["proj", "zip", "api", "z.h"].map Name.ofString, .file (.text "")),
    (["proj", "zip", "again"].map Name.ofString, .link (Path.ofString ".")),
    (["proj", "zip", "extra"].map Name.ofString, .link (Path.ofString "../more"))], []⟩

theorem wellFormed_headerTree : headerTree.WellFormed where
  names := by decide +kernel
  parents := by decide +kernel

def headerSample : Json :=
  Schema.descriptorOf [("debug", Schema.targetEntry [] [])] [("app", Schema.executableEntry "main.c")]
    [("zip", .object [(Tag.kind, .string "static"), (Tag.rootDirectory, .string "zip"),
      (Tag.libraryFiles, .texts ["libz.a"]), (Tag.searchedIncludeDirectories, .texts ["."])])]
    [("app", .texts ["zip"])]

theorem resolveDescriptor_offersHeaders_headerSample :
    ∃ project, (resolveDescriptor headerTree (Path.ofString "proj") headerSample).outcome = .ok project ∧
      project.importedLibraries.map ImportedLibrary.headerFiles = [["zip/api/z.h", "zip/extra/m.h"]] ∧
      project.importedLibraries.map ImportedLibrary.includeDirectories = [["zip", "zip/api", "zip/extra"]] ∧
      List.Forall₂ (fun entry library => ∃ fields parts, entry.2 = .object fields ∧
          LibraryParts.ReadFrom ⟨fields, some entry.1⟩ parts ∧ library.name = entry.1 ∧
          parts.OffersHeaders headerTree (Path.ofString "proj") headerSample project library)
        (headerSample.membersUnder Tag.importedLibraries) project.importedLibraries := by
  obtain ⟨project, resolved, libraries⟩ := (map_eq_ok_iff Project.importedLibraries _ _).1
    (show (resolveDescriptor headerTree (Path.ofString "proj") headerSample).outcome.map Project.importedLibraries =
      .ok [⟨"zip", .static, "zip", ["zip/libz.a"], ["zip", "zip/api", "zip/extra"],
        ["zip/api/z.h", "zip/extra/m.h"]⟩] by
      rw [headerSample, Schema.descriptorOf, importedLibraries_of_resolveDescriptor]
      cbv)
  refine ⟨project, resolved, ?_, ?_, resolveDescriptor_offersHeaders _ wellFormed_headerTree _ _ _ resolved⟩
  · rw [libraries]
    rfl
  · rw [libraries]
    rfl

end Listfile
