import Listfile.Descriptor.Resolution
import Listfile.Proofs.Descriptor.Configurations
import Listfile.Proofs.Descriptor.Libraries
import Listfile.Proofs.Descriptor.Links
import Listfile.Proofs.Descriptor.Outputs

set_option autoImplicit false

/-! What a successful resolution consists of. Every statement about resolved projects starts from the parts
that were read; none of them opens the resolution again. -/

namespace Listfile

/-- How a project was read, with its outputs as they were before they picked up libraries. -/
structure Project.ReadFrom (tree : FileTree) (root : Path) (top : Fields) (units : List OutputUnit)
    (project : Project) : Prop where
  info : readInfo root top = .ok project.info
  cppStandards : ∃ declared, top.optionalScalar Tag.defaultCppStandard = .ok declared ∧
    (readStandards top Tag.allowedCppStandards (declared.getD "")).outcome = .ok project.cppStandards
  cStandards : ∃ declared, top.optionalScalar Tag.defaultCStandard = .ok declared ∧
    (readStandards top Tag.allowedCStandards (declared.getD "")).outcome = .ok project.cStandards
  targets : readTargets top = .ok project.targets
  defaultTarget : readDefaultTarget top project.targets = .ok project.defaultTarget
  unitsRead : (readOutputs tree root top).outcome = .ok units
  libraries : (readLibraries tree root top).outcome = .ok project.importedLibraries
  names : checkNames units project.importedLibraries = .ok ()
  edges : readLinkEdges top units project.importedLibraries = .ok project.linkEdges
  outputs : project.outputs = units.map (OutputUnit.augment project.importedLibraries project.linkEdges)

theorem topFields_eq_ok_iff (descriptor : Json) (top : Fields) :
    topFields descriptor = .ok top ↔ descriptor = .object top.members ∧ top.parent = none := by
  obtain ⟨members, parent⟩ := top
  cases descriptor <;> simp [topFields, eq_comm]

theorem readInfo_succeeds_iff (root : Path) (top : Fields) :
    (∃ info, readInfo root top = .ok info) ↔
      Schema.Required top.members Tag.minimumVersion Schema.IsText ∧
        Schema.Required top.members Tag.projectName Schema.IsText := by
  rw [← top.requireText_succeeds_iff Tag.minimumVersion none, ← top.requireText_succeeds_iff Tag.projectName none]
  simp only [readInfo, bind_eq_ok_iff]
  constructor
  · intro premise
    obtain ⟨info, version, versionRead, name, nameRead, _same⟩ := premise
    exact ⟨⟨version, versionRead⟩, name, nameRead⟩
  · intro premise
    obtain ⟨⟨version, versionRead⟩, name, nameRead⟩ := premise
    exact ⟨⟨name, version, root⟩, version, versionRead, name, nameRead, rfl⟩

theorem resolveDescriptor_eq_ok_iff (tree : FileTree) (root : Path) (descriptor : Json) (project : Project) :
    (resolveDescriptor tree root descriptor).outcome = .ok project ↔
      ∃ members units, descriptor = .object members ∧ project.ReadFrom tree root ⟨members, none⟩ units := by
  simp only [resolveDescriptor, Attempt.outcome_bind, Attempt.outcome_lift, Attempt.outcome_note,
    Attempt.outcome_pure, bind_eq_ok_iff, topFields_eq_ok_iff]
  constructor
  · intro premise
    obtain ⟨⟨members, _⟩, ⟨isObject, rfl⟩, info, infoRead, _, _, cppDeclared, cppDeclaredRead, cDeclared,
      cDeclaredRead, cppStandards, cppRead, cStandards, cRead, targets, targetsRead, defaultTarget, defaultRead,
      units, unitsRead, libraries, librariesRead, _, namesRead, edges, edgesRead, _, _, _, _, same⟩ := premise
    rw [augmentOutputs_eq_map libraries edges (checkNames_outputs namesRead)] at same
    cases same
    exact ⟨members, units, isObject,
      { info := infoRead
        cppStandards := ⟨cppDeclared, cppDeclaredRead, cppRead⟩
        cStandards := ⟨cDeclared, cDeclaredRead, cRead⟩
        targets := targetsRead
        defaultTarget := defaultRead
        unitsRead := unitsRead
        libraries := librariesRead
        names := namesRead
        edges := edgesRead
        outputs := rfl }⟩
  · intro premise
    obtain ⟨members, units, isObject, read⟩ := premise
    obtain ⟨info, cStandards, cppStandards, targets, defaultTarget, outputs, libraries, edges⟩ := project
    obtain ⟨cppDeclared, cppDeclaredRead, cppRead⟩ := read.cppStandards
    obtain ⟨cDeclared, cDeclaredRead, cRead⟩ := read.cStandards
    have sameOutputs := read.outputs
    dsimp only at sameOutputs
    rw [sameOutputs, ← augmentOutputs_eq_map libraries edges (checkNames_outputs read.names)]
    exact ⟨⟨members, none⟩, ⟨isObject, rfl⟩, info, read.info, (), trivial, cppDeclared, cppDeclaredRead, cDeclared,
      cDeclaredRead, cppStandards, cppRead, cStandards, cRead, targets, read.targets, defaultTarget,
      read.defaultTarget, units, read.unitsRead, libraries, read.libraries, (), read.names, edges, read.edges, (), trivial,
      (), trivial, rfl⟩

theorem resolve_eq_ok_iff (tree : FileTree) (root : Path) (project : Project) :
    (resolve tree root).outcome = .ok project ↔ checkRoot tree root = .ok () ∧
      ∃ descriptor, loadDescriptor tree root = .ok descriptor ∧
        (resolveDescriptor tree root descriptor).outcome = .ok project := by
  rw [resolve]
  simp only [Attempt.outcome_bind, Attempt.outcome_lift, bind_eq_ok_iff]
  constructor
  · intro premise
    obtain ⟨_done, isRoot, descriptor, loaded, resolved⟩ := premise
    exact ⟨isRoot, descriptor, loaded, resolved⟩
  · intro premise
    obtain ⟨isRoot, descriptor, loaded, resolved⟩ := premise
    exact ⟨(), isRoot, descriptor, loaded, resolved⟩

def Project.entryNames (project : Project) : List String :=
  project.outputs.map OutputUnit.name ++ project.importedLibraries.map ImportedLibrary.name

namespace Project.ReadFrom

variable {tree : FileTree} {root : Path} {top : Fields} {units : List OutputUnit} {project : Project}

theorem outputs_names (read : project.ReadFrom tree root top units) :
    project.outputs.map OutputUnit.name = units.map OutputUnit.name := by
  rw [read.outputs, List.map_map]
  rfl

theorem entryNames_folded (read : project.ReadFrom tree root top units) :
    (project.entryNames.map Text.lowercase).Nodup := by
  rw [entryNames, read.outputs_names]
  exact (checkNames_eq_ok_iff _ _).1 read.names

theorem entryNames_nodup (read : project.ReadFrom tree root top units) : project.entryNames.Nodup :=
  List.Nodup.of_map Text.lowercase read.entryNames_folded

end Project.ReadFrom

def readHead (root : Path) (top : Fields) : Except Problem (ProjectInfo × LanguageStandards × LanguageStandards) := do
  let info ← readInfo root top
  let cppDefault ← top.optionalScalar Tag.defaultCppStandard
  let cDefault ← top.optionalScalar Tag.defaultCStandard
  let cppStandards ← (readStandards top Tag.allowedCppStandards (cppDefault.getD "")).outcome
  let cStandards ← (readStandards top Tag.allowedCStandards (cDefault.getD "")).outcome
  return (info, cppStandards, cStandards)

def readSettings (root : Path) (top : Fields) :
    Except Problem ((ProjectInfo × LanguageStandards × LanguageStandards) × List BuildTarget × Option String) := do
  let head ← readHead root top
  let targets ← readTargets top
  let defaultTarget ← readDefaultTarget top targets
  return (head, targets, defaultTarget)

theorem outcome_resolveDescriptor (tree : FileTree) (root : Path) (members : List (String × Json)) :
    (resolveDescriptor tree root (.object members)).outcome = do
      let settings ← readSettings root ⟨members, none⟩
      let outputs ← (readOutputs tree root ⟨members, none⟩).outcome
      let libraries ← (readLibraries tree root ⟨members, none⟩).outcome
      checkNames outputs libraries
      let edges ← readLinkEdges ⟨members, none⟩ outputs libraries
      return {
        info := settings.1.1, cppStandards := settings.1.2.1, cStandards := settings.1.2.2, targets := settings.2.1,
        defaultTarget := settings.2.2, outputs := augmentOutputs libraries edges outputs,
        importedLibraries := libraries, linkEdges := edges } := by
  simp only [resolveDescriptor, topFields, readSettings, readHead, Attempt.outcome_bind, Attempt.outcome_lift,
    Attempt.outcome_note, Attempt.outcome_pure, ok_bind, bind_assoc, pure_bind]
  rfl

/-- The libraries of a project, without the outputs that pick them up. -/
theorem importedLibraries_of_resolveDescriptor (tree : FileTree) (root : Path) (members : List (String × Json)) :
    (resolveDescriptor tree root (.object members)).outcome.map Project.importedLibraries = do
      let _settings ← readSettings root ⟨members, none⟩
      let outputs ← (readOutputs tree root ⟨members, none⟩).outcome
      let libraries ← (readLibraries tree root ⟨members, none⟩).outcome
      checkNames outputs libraries
      let _edges ← readLinkEdges ⟨members, none⟩ outputs libraries
      return libraries := by
  rw [outcome_resolveDescriptor]
  show Project.importedLibraries <$> (_ : Except Problem Project) = _
  simp only [map_bind, map_pure]

end Listfile
