import Listfile.Proofs.Descriptor.Resolution
import Listfile.Proofs.Descriptor.Turning
import Listfile.Script.Listing
import Mathlib.Computability.Primrec.List
import Mathlib.Data.List.Permutation

-- The Mathlib files state the equations of `List.lookup` and `Prod.snd` that `cbv` evaluates with.
set_option autoImplicit false

/-! The listfile of a descriptor with turned separators. Paths are normalized when they are read into a project or when
they are written, but search directories are looked up as they stand: where nothing is looked up under another
name, the listfile stays the same. -/

namespace Listfile

open Schema

structure Schema.Turnable (tree : FileTree) (root : Path) (separator : Char) (descriptor : Json) : Prop where
  outputs : ∀ entry ∈ descriptor.membersUnder Tag.output, OutputSearchesKept tree root separator entry.2
  libraries : ∀ entry ∈ descriptor.membersUnder Tag.importedLibraries, LibraryTurnable tree root separator entry.2

section

variable {tree : FileTree} {root : Path} {separator : Char} {members : List (String × Json)}
  (separates : separator = '/' ∨ separator = '\\') (noBackslash : tree.NoBackslash)
  (turnable : Turnable tree root separator (.object members))

theorem forall₂_mapMembers {α : Type} {entries : List (String × Json)} {results : List α}
    {relation other : String × Json → α → Prop} {change : Json → Json} {changeResult : α → α}
    (related : List.Forall₂ relation entries results)
    (changed : ∀ entry ∈ entries, ∀ result, relation entry result →
      other (entry.1, change entry.2) (changeResult result)) :
    List.Forall₂ other (mapMembers (fun _name value => change value) entries) (results.map changeResult) := by
  rw [mapMembers, List.forall₂_map_left_iff, List.forall₂_map_right_iff]
  exact forall₂_imp_of_mem related fun entry member result _inResults holds => changed entry member result holds

include separates noBackslash turnable

theorem readOutputs_turned {units : List OutputUnit}
    (read : (readOutputs tree root ⟨members, none⟩).outcome = .ok units) :
    (readOutputs tree root ⟨mapMembers (turnField separator) members, none⟩).outcome =
      .ok (units.map (OutputUnit.turned separator)) := by
  obtain ⟨entries, present, filled, related⟩ := (readOutputs_eq_ok_iff _ _ _ _).1 read
  have kept := turnable.outputs
  rw [membersUnder_of_present present] at kept
  refine (readOutputs_eq_ok_iff _ _ _ _).2
    ⟨mapMembers (fun _name value => turnEntry separator outputPathTags value) entries, ?_,
      fun empty => filled (List.map_eq_nil_iff.1 empty),
      forall₂_mapMembers related fun entry member _unit readEntry =>
        readOutput_turned separates noBackslash (kept entry member) readEntry⟩
  rw [Fields.get?, member?_mapMembers, show Json.member? members Tag.output = _ from present]
  rfl

theorem readLibraries_turned {libraries : List ImportedLibrary}
    (read : (readLibraries tree root ⟨members, none⟩).outcome = .ok libraries) :
    (readLibraries tree root ⟨mapMembers (turnField separator) members, none⟩).outcome = .ok libraries := by
  obtain ⟨entries, present, related⟩ := (readLibraries_eq_ok_iff _ _ _ _).1 read
  have kept := turnable.libraries
  rw [membersUnder_of_optional present] at kept
  have readTurned : List.Forall₂ (fun entry library => (readLibrary tree root entry.1 entry.2).outcome = .ok library)
      (mapMembers (fun _name value => turnEntry separator libraryPathTags value) entries) (libraries.map id) :=
    forall₂_mapMembers related fun entry member _library readEntry =>
      readLibrary_turned separates noBackslash (kept entry member) readEntry
  rw [List.map_id] at readTurned
  refine (readLibraries_eq_ok_iff _ _ _ _).2 ⟨_, (Fields.optionalObject_eq_ok_iff _ _ _).2 ?_, readTurned⟩
  rcases (Fields.optionalObject_eq_ok_iff _ _ _).1 present with ⟨absent, empty⟩ | found
  · refine Or.inl ⟨(Fields.optional_eq_none_iff _ _).2 ?_, by rw [empty]; rfl⟩
    intro value inTurned
    rw [Fields.get?, member?_mapMembers] at inTurned
    obtain ⟨before, found, same⟩ := Option.map_eq_some_iff.1 inTurned
    rw [← same, (Fields.optional_eq_none_iff _ _).1 absent before found]
    rfl
  · refine Or.inr ((Fields.optional_eq_some_iff _ _ _).2 ⟨?_, Json.noConfusion⟩)
    have foundMember := ((Fields.optional_eq_some_iff _ _ _).1 found).1
    rw [Fields.get?, member?_mapMembers, show Json.member? members Tag.importedLibraries = _ from foundMember]
    rfl

omit separates noBackslash turnable

theorem member?_turned {tag : String} (notOutput : tag ≠ Tag.output) (notLibraries : tag ≠ Tag.importedLibraries) :
    Json.member? members tag = Json.member? (mapMembers (turnField separator) members) tag := by
  have unchanged : turnField separator tag = id := by
    funext value
    rw [turnField, if_neg notOutput, if_neg notLibraries]
    rfl
  rw [member?_mapMembers, unchanged, Option.map_id]
  rfl

theorem plainRules_apart : ∀ rule ∈ topRules, entryRules.lookup rule.tag = none →
    rule.tag ≠ Tag.output ∧ rule.tag ≠ Tag.importedLibraries := by decide

theorem plainAgree_turned : PlainAgree members (mapMembers (turnField separator) members) := by
  intro rule known noEntries
  obtain ⟨notOutput, notLibraries⟩ := plainRules_apart rule known noEntries
  exact Rule.view_eq_of_member? (member?_turned notOutput notLibraries)

end

theorem resolveLink_turned (separator : Char) (units : List OutputUnit) (libraries : List ImportedLibrary)
    (name : String) :
    resolveLink (units.map (OutputUnit.turned separator)) libraries name = resolveLink units libraries name := by
  unfold resolveLink
  rw [List.find?_map]
  have sameSearch : ((fun unit : OutputUnit => decide (unit.name = name)) ∘ OutputUnit.turned separator) =
      fun unit => decide (unit.name = name) := rfl
  rw [sameSearch]
  cases units.find? fun unit => decide (unit.name = name) <;> rfl

theorem readLinkEdges_turned (separator : Char) (top : Fields) (units : List OutputUnit)
    (libraries : List ImportedLibrary) :
    readLinkEdges top (units.map (OutputUnit.turned separator)) libraries = readLinkEdges top units libraries := by
  have sameLinks : resolveLink (units.map (OutputUnit.turned separator)) libraries = resolveLink units libraries :=
    funext (resolveLink_turned separator units libraries)
  simp only [readLinkEdges, readLinkEdge, sameLinks, List.any_map]
  rfl

def Project.turned (separator : Char) (project : Project) : Project :=
  { project with outputs := project.outputs.map (OutputUnit.turned separator) }

variable {tree : FileTree} {root : Path} {separator : Char} {members : List (String × Json)} {units : List OutputUnit}
  {project : Project}

theorem standards_congr {left right : List (String × Json)} {defaultTag allowedTag : String}
    {standards : LanguageStandards}
    (sameDefault : Fields.optional ⟨left, none⟩ defaultTag = Fields.optional ⟨right, none⟩ defaultTag)
    (sameAllowed : Json.member? left allowedTag = Json.member? right allowedTag)
    (read : ∃ declared, Fields.optionalScalar ⟨left, none⟩ defaultTag = .ok declared ∧
      (readStandards ⟨left, none⟩ allowedTag (declared.getD "")).outcome = .ok standards) :
    ∃ declared, Fields.optionalScalar ⟨right, none⟩ defaultTag = .ok declared ∧
      (readStandards ⟨right, none⟩ allowedTag (declared.getD "")).outcome = .ok standards := by
  rw [← Fields.optionalScalar_congr sameDefault]
  simp only [← readStandards_congr sameAllowed]
  exact read

theorem Project.ReadFrom.turned (separates : separator = '/' ∨ separator = '\\') (noBackslash : tree.NoBackslash)
    (turnable : Turnable tree root separator (.object members))
    (read : project.ReadFrom tree root ⟨members, none⟩ units) :
    (project.turned separator).ReadFrom tree root ⟨mapMembers (turnField separator) members, none⟩
      (units.map (OutputUnit.turned separator)) where
  info := readInfo_congr root plainAgree_turned ▸ read.info
  cppStandards := standards_congr (plainAgree_turned ⟨Tag.defaultCppStandard, .scalar, .optional⟩ (by decide) rfl)
    (plainAgree_turned ⟨Tag.allowedCppStandards, .scalars, .filled⟩ (by decide) rfl) read.cppStandards
  cStandards := standards_congr (plainAgree_turned ⟨Tag.defaultCStandard, .scalar, .optional⟩ (by decide) rfl)
    (plainAgree_turned ⟨Tag.allowedCStandards, .scalars, .filled⟩ (by decide) rfl) read.cStandards
  targets := by
    have alike : AlikeField (some targetRules) (Json.member? members Tag.targets)
        (Json.member? (mapMembers (turnField separator) members) Tag.targets) := by
      rw [← member?_turned (by decide) (by decide)]
      exact .same _
    exact readTargets_congr alike ▸ read.targets
  defaultTarget := readDefaultTarget_congr plainAgree_turned project.targets ▸ read.defaultTarget
  unitsRead := readOutputs_turned separates noBackslash turnable read.unitsRead
  libraries := readLibraries_turned separates noBackslash turnable read.libraries
  names := by
    have apart := (checkNames_eq_ok_iff _ _).1 read.names
    rw [checkNames_eq_ok_iff, List.map_map]
    exact apart
  edges := by
    rw [readLinkEdges_turned, ← readLinkEdges_congr plainAgree_turned]
    exact read.edges
  outputs := by
    rw [Project.turned, read.outputs, List.map_map, List.map_map]
    rfl

theorem buildDirectory_turnSeparators (separates : separator = '/' ∨ separator = '\\') (directory : String) :
    Script.buildDirectory (turnSeparators separator directory) = Script.buildDirectory directory := by
  rw [Script.buildDirectory, Script.buildDirectory, normalizeSeparators_turnSeparators separates]

theorem outputLines_turned (separates : separator = '/' ∨ separator = '\\') (unit : OutputUnit) :
    Script.outputLines (unit.turned separator) = Script.outputLines unit := by
  obtain ⟨name, kind, sources, includeDirectories⟩ := unit
  cases kind with
  | executable directory =>
      simp only [Script.outputLines, OutputUnit.turned, OutputKind.turned, Script.outputDirectoryLines,
        buildDirectory_turnSeparators separates]
      rfl
  | library linkage archiveDirectory libraryDirectory =>
      simp only [Script.outputLines, OutputUnit.turned, OutputKind.turned, Script.outputDirectoryLines,
        buildDirectory_turnSeparators separates]
      rfl

/-- Output directories are normalized when they are written. -/
theorem script_turned (separates : separator = '/' ∨ separator = '\\') (project : Project) :
    (project.turned separator).script = project.script := by
  have outputs : ((project.turned separator).outputs.map Script.Part.output).flatMap Script.Part.lines =
      (project.outputs.map Script.Part.output).flatMap Script.Part.lines := by
    rw [Project.turned, List.map_map, List.flatMap_map, List.flatMap_map]
    exact List.flatMap_congr fun unit _member => outputLines_turned separates unit
  have standards : ∀ language choice,
      (Script.Part.standards language choice (project.turned separator).outputs).lines =
        (Script.Part.standards language choice project.outputs).lines := by
    intro language choice
    simp only [Script.Part.lines, Script.standardLines, Project.turned, List.map_map]
    rfl
  simp only [Project.script, Project.scriptLines, Project.parts, List.flatMap_append, List.flatMap_cons,
    List.flatMap_nil, outputs, standards]
  rfl

/-- Separators are interchangeable, except in search directories that lead somewhere and in untidy library paths. -/
theorem resolveDescriptor_turned (tree : FileTree) (root : Path) (separator : Char) (descriptor : Json)
    (project : Project) (separates : separator = '/' ∨ separator = '\\') (noBackslash : tree.NoBackslash)
    (turnable : Turnable tree root separator descriptor)
    (resolved : (resolveDescriptor tree root descriptor).outcome = .ok project) :
    ∃ turned, (resolveDescriptor tree root (turnDescriptor separator descriptor)).outcome = .ok turned ∧
      turned.script = project.script := by
  obtain ⟨members, units, isObject, read⟩ := (resolveDescriptor_eq_ok_iff _ _ _ _).1 resolved
  rw [isObject] at turnable ⊢
  have readTurned := read.turned separates noBackslash turnable
  exact ⟨project.turned separator, (resolveDescriptor_eq_ok_iff _ _ _ _).2 ⟨_, _, rfl, readTurned⟩,
    script_turned separates project⟩

def nestedTree : FileTree :=
  ⟨[([Name.ofString "src"], .directory), ([Name.ofString "src", Name.ofString "util"], .directory),
    ([Name.ofString "src", Name.ofString "util", Name.ofString "a.c"], .file (.text ""))], []⟩

def nestedRoot : Path := Path.ofString "."

theorem noBackslash_nestedTree : nestedTree.NoBackslash := by decide

/-- An executable with a library. Of its search directories, one has no separator and the other does not exist. -/
def slashedDescriptor : Json :=
  descriptorOf [("debug", targetEntry [] [])]
    [("app", .object [(Tag.kind, .string "executable"), (Tag.baseFile, .string "src/main.c"),
      (Tag.sourceDirectories, .texts ["src"]), (Tag.headerDirectories, .texts ["no/headers"]),
      (Tag.searchedIncludeDirectories, .texts []), (Tag.includeDirectories, .texts ["include/app"]),
      (Tag.executableDirectory, .string "bin/app")])]
    [("zlib", libraryEntry "vendor/zlib" ["lib/z"] ["include/zlib"])] [("app", .texts ["zlib"])]

theorem turnable_slashedDescriptor : Turnable nestedTree nestedRoot '\\' slashedDescriptor where
  outputs := by
    intro entry member tag known directory inDirectories
    cases List.mem_singleton.1 member
    rcases List.mem_cons.1 known with isSources | isOther
    · cases isSources
      cases List.mem_singleton.1 inDirectories
      exact Or.inl rfl
    · rcases List.mem_cons.1 isOther with isHeaders | isIncludes
      · cases isHeaders
        cases List.mem_singleton.1 inDirectories
        exact Or.inr (by cbv)
      · cases List.mem_singleton.1 isIncludes
        cases inDirectories
  libraries := by
    intro entry member
    cases List.mem_singleton.1 member
    exact
      { paths := by decide
        directory := by
          intro members directory isObject present
          cases isObject
          cases present
          exact ⟨Or.inl (by decide), Or.inr (by decide),
            fun _searched inSearched => absurd inSearched List.not_mem_nil⟩ }

set_option maxRecDepth 20000 in
theorem exists_resolveDescriptor_slashedDescriptor :
    ∃ project, (resolveDescriptor nestedTree nestedRoot slashedDescriptor).outcome = .ok project := by
  have libraries : (resolveDescriptor nestedTree nestedRoot slashedDescriptor).outcome.map Project.importedLibraries =
      .ok [⟨"zlib", .static, "vendor/zlib", ["vendor/zlib/lib/z"], ["vendor/zlib/include/zlib"], []⟩] := by
    rw [slashedDescriptor, descriptorOf, importedLibraries_of_resolveDescriptor]
    cbv
  obtain ⟨project, resolved, _libraries⟩ := (map_eq_ok_iff _ _ _).1 libraries
  exact ⟨project, resolved⟩

/-- Everything but the search directories of sources is turned, and the listfile stays the same. -/
theorem resolveDescriptor_turned_slashedDescriptor :
    Turnable nestedTree nestedRoot '\\' slashedDescriptor ∧
      ∃ project, (resolveDescriptor nestedTree nestedRoot slashedDescriptor).outcome = .ok project ∧
        ∃ turned, (resolveDescriptor nestedTree nestedRoot (turnDescriptor '\\' slashedDescriptor)).outcome =
          .ok turned ∧ turned.script = project.script := by
  obtain ⟨project, resolved⟩ := exists_resolveDescriptor_slashedDescriptor
  exact ⟨turnable_slashedDescriptor, project, resolved, resolveDescriptor_turned _ _ _ _ _ (Or.inr rfl)
    noBackslash_nestedTree turnable_slashedDescriptor resolved⟩

def searchingDescriptor (directory : String) : Json :=
  descriptorOf [("debug", targetEntry [] [])]
    [("app", .object [(Tag.kind, .string "executable"), (Tag.sourceDirectories, .texts [directory]),
      (Tag.headerDirectories, .texts []), (Tag.searchedIncludeDirectories, .texts []),
      (Tag.executableDirectory, .string "bin")])] [] []

set_option maxRecDepth 20000 in
theorem resolveDescriptor_searchingDescriptor :
    (resolveDescriptor nestedTree nestedRoot (searchingDescriptor "src/util")).outcome.toBool = true := by cbv

set_option maxRecDepth 20000 in
theorem resolveDescriptor_searchingDescriptor_turned :
    (resolveDescriptor nestedTree nestedRoot (searchingDescriptor "src\\util")).outcome =
      .error (.emptyField Tag.sourceDirectories (some "app") Reason.noSources) := by cbv

/-- A search directory that leads to the only source does not lead there when it is written with a backslash. -/
theorem not_interchangeable_searchingDescriptor :
    ¬∀ (tree : FileTree) (root : Path) (separator : Char) (descriptor : Json) (project : Project),
      separator = '/' ∨ separator = '\\' → tree.NoBackslash →
        (resolveDescriptor tree root descriptor).outcome = .ok project →
          ∃ turned, (resolveDescriptor tree root (turnDescriptor separator descriptor)).outcome = .ok turned ∧
            turned.script = project.script := by
  intro interchangeable
  obtain ⟨project, resolved⟩ := exists_of_toBool resolveDescriptor_searchingDescriptor
  obtain ⟨turned, resolvedTurned, _sameScript⟩ :=
    interchangeable nestedTree nestedRoot '\\' _ project (Or.inr rfl) noBackslash_nestedTree resolved
  have written : turnDescriptor '\\' (searchingDescriptor "src/util") = searchingDescriptor "src\\util" := rfl
  rw [written, resolveDescriptor_searchingDescriptor_turned] at resolvedTurned
  cases resolvedTurned

end Listfile
