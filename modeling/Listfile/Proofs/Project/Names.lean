import Listfile.Proofs.Descriptor.Resolution
import Listfile.Proofs.Text.Case

set_option autoImplicit false

/-! When the names that a listfile derives from entries are apart. Two variables of different roles never have one
name. Two entries are kept apart in lower case but named in upper case, so their variables and identifiers
are apart exactly if the two cases agree on the names of the project. -/

namespace Listfile

open Text (uppercase lowercase CasesAgree isReversible)

theorem append_left_injective (suffix : String) : Function.Injective (· ++ suffix) := by
  intro left right same
  have letters : left.toList ++ suffix.toList = right.toList ++ suffix.toList := by
    rw [← String.toList_append, ← String.toList_append]
    exact congrArg String.toList same
  exact String.toList_inj.1 (List.append_cancel_right letters)

/-- Texts end differently if neither ending is an ending of the other. -/
theorem append_ne_append {first second : String} (apart : ¬first.toList <:+ second.toList)
    (apartBack : ¬second.toList <:+ first.toList) (left right : String) : left ++ first ≠ right ++ second := by
  intro same
  have firstEnds : first.toList <:+ (left ++ first).toList := by
    rw [String.toList_append]
    exact List.suffix_append _ _
  have secondEnds : second.toList <:+ (left ++ first).toList := by
    rw [same, String.toList_append]
    exact List.suffix_append _ _
  rcases List.suffix_or_suffix_of_suffix firstEnds secondEnds with within | within
  · exact apart within
  · exact apartBack within

theorem sourcesVariable_ne_headerVariable (left right : String) : sourcesVariable left ≠ headerVariable right :=
  append_ne_append (by decide) (by decide) _ _

theorem sourcesVariable_ne_includeVariable (left right : String) : sourcesVariable left ≠ includeVariable right :=
  append_ne_append (by decide) (by decide) _ _

theorem headerVariable_ne_includeVariable (left right : String) : headerVariable left ≠ includeVariable right :=
  append_ne_append (by decide) (by decide) _ _

def Project.entryVariables (project : Project) : List String :=
  project.outputs.map OutputUnit.sourcesVariable ++
    (project.importedLibraries.map ImportedLibrary.headerVariable ++ project.entryNames.map includeVariable)

/-- No entry declares or sets what another entry declares or sets. -/
structure Project.NamesApart (project : Project) : Prop where
  identifiers : (project.outputs.map OutputUnit.identifier).Nodup
  sources : (project.outputs.map OutputUnit.sourcesVariable).Nodup
  headers : (project.importedLibraries.map ImportedLibrary.headerVariable).Nodup
  includes : (project.entryNames.map includeVariable).Nodup
  all : project.entryVariables.Nodup

theorem map_suffixed_nodup_iff (suffix : String) (names : List String) :
    (names.map fun name => uppercase name ++ suffix).Nodup ↔ (names.map uppercase).Nodup := by
  rw [← List.nodup_map_iff (f := (· ++ suffix)) (append_left_injective suffix) (l := names.map uppercase), List.map_map]
  rfl

theorem Project.entryVariables_nodup {project : Project}
    (sources : (project.outputs.map OutputUnit.sourcesVariable).Nodup)
    (headers : (project.importedLibraries.map ImportedLibrary.headerVariable).Nodup)
    (includes : (project.entryNames.map includeVariable).Nodup) : project.entryVariables.Nodup := by
  refine List.nodup_append'.2 ⟨sources, List.nodup_append'.2 ⟨headers, includes, ?_⟩, ?_⟩
  · intro found inHeaders inIncludes
    obtain ⟨library, _inLibraries, isHeader⟩ := List.mem_map.1 inHeaders
    obtain ⟨name, _inNames, isInclude⟩ := List.mem_map.1 inIncludes
    exact headerVariable_ne_includeVariable library.name name (isHeader.trans isInclude.symm)
  · intro found inSources inOthers
    obtain ⟨unit, _inOutputs, isSource⟩ := List.mem_map.1 inSources
    rcases List.mem_append.1 inOthers with inHeaders | inIncludes
    · obtain ⟨library, _inLibraries, isHeader⟩ := List.mem_map.1 inHeaders
      exact sourcesVariable_ne_headerVariable unit.name library.name (isSource.trans isHeader.symm)
    · obtain ⟨name, _inNames, isInclude⟩ := List.mem_map.1 inIncludes
      exact sourcesVariable_ne_includeVariable unit.name name (isSource.trans isInclude.symm)

theorem Project.namesApart_iff_nodup (project : Project) :
    project.NamesApart ↔ (project.entryNames.map uppercase).Nodup := by
  constructor
  · exact fun apart => (map_suffixed_nodup_iff "_INCLUDE_DIRS" _).1 apart.includes
  · intro distinct
    have upper := distinct
    rw [entryNames, List.map_append] at upper
    obtain ⟨ofOutputs, ofLibraries, _disjoint⟩ := List.nodup_append'.1 upper
    have identifiers := (map_suffixed_nodup_iff "_CMAKE_OUTPUT" _).2 ofOutputs
    have sources := (map_suffixed_nodup_iff "_SOURCES" _).2 ofOutputs
    have headers := (map_suffixed_nodup_iff "_HEADER_FILES" _).2 ofLibraries
    have includes := (map_suffixed_nodup_iff "_INCLUDE_DIRS" _).2 distinct
    rw [List.map_map] at identifiers sources headers
    exact ⟨identifiers, sources, headers, includes, project.entryVariables_nodup sources headers includes⟩

variable {tree : FileTree} {root : Path} {top : Fields} {units : List OutputUnit} {project : Project}

theorem Project.ReadFrom.namesApart_iff (read : project.ReadFrom tree root top units) :
    project.NamesApart ↔ CasesAgree project.entryNames := by
  rw [project.namesApart_iff_nodup]
  exact Text.uppercase_nodup_iff read.entryNames_folded

theorem Project.ReadFrom.namesApart_of_ascii (read : project.ReadFrom tree root top units)
    (ascii : ∀ name ∈ project.entryNames, ∀ letter ∈ name.toList, letter.toNat < 128) : project.NamesApart :=
  read.namesApart_iff.2 (Text.casesAgree_of_reversible fun name inNames letter inName =>
    Text.isReversible_of_ascii (ascii name inNames letter inName))

/-- The names of an accepted descriptor are apart exactly if upper case tells apart what lower case does, which it
does for letters that go back and forth between the cases, and so for all of ASCII. -/
theorem resolveDescriptor_namesApart_iff (tree : FileTree) (root : Path) (descriptor : Json) (project : Project)
    (resolved : (resolveDescriptor tree root descriptor).outcome = .ok project) :
    (project.NamesApart ↔ CasesAgree project.entryNames) ∧
      ((∀ name ∈ project.entryNames, ∀ letter ∈ name.toList, isReversible letter = true) → project.NamesApart) ∧
      ((∀ name ∈ project.entryNames, ∀ letter ∈ name.toList, letter.toNat < 128) → project.NamesApart) := by
  obtain ⟨members, units, _isObject, read⟩ := (resolveDescriptor_eq_ok_iff _ _ _ _).1 resolved
  refine ⟨read.namesApart_iff, fun reversible => ?_, read.namesApart_of_ascii⟩
  exact read.namesApart_iff.2 (Text.casesAgree_of_reversible reversible)

def namesSample (names : List String) : Json :=
  Schema.descriptorOf [("debug", Schema.targetEntry [] [])] (names.map fun name => (name, Schema.executableEntry "main.c"))
    [] []

theorem resolveDescriptor_namesApart_iff_ascii :
    ∃ project, (resolveDescriptor ⟨[], []⟩ ⟨[]⟩ (namesSample ["app", "tool"])).outcome = .ok project ∧
      project.entryNames = ["app", "tool"] ∧ project.NamesApart := by
  obtain ⟨project, resolved, names⟩ := (map_eq_ok_iff Project.entryNames _ _).1
    (show (resolveDescriptor ⟨[], []⟩ ⟨[]⟩ (namesSample ["app", "tool"])).outcome.map Project.entryNames =
      .ok ["app", "tool"] from rfl)
  refine ⟨project, resolved, names, (resolveDescriptor_namesApart_iff _ _ _ _ resolved).2.2 ?_⟩
  rw [names]
  have table : (["app", "tool"].all fun name => name.toList.all fun letter => decide (letter.toNat < 128)) = true := rfl
  intro name inNames letter inName
  exact of_decide_eq_true (List.all_eq_true.1 (List.all_eq_true.1 table name inNames) letter inName)

/-- A sharp s stays as it is in lower case and becomes two letters in upper case. -/
theorem not_namesApart_sharpS :
    ∃ project, (resolveDescriptor ⟨[], []⟩ ⟨[]⟩ (namesSample ["ß", "ss"])).outcome = .ok project ∧
      ¬project.NamesApart := by
  obtain ⟨project, resolved, assigned⟩ := (map_eq_ok_iff Project.entryVariables _ _).1
    (show (resolveDescriptor ⟨[], []⟩ ⟨[]⟩ (namesSample ["ß", "ss"])).outcome.map Project.entryVariables =
      .ok ["SS_SOURCES", "SS_SOURCES", "SS_INCLUDE_DIRS", "SS_INCLUDE_DIRS"] from rfl)
  refine ⟨project, resolved, fun apart => ?_⟩
  have distinct := apart.all
  rw [assigned] at distinct
  exact absurd distinct (by decide)

end Listfile
