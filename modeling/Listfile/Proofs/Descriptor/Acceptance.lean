import Listfile.Proofs.Descriptor.Resolution

set_option autoImplicit false

/-! Descriptors are accepted exactly when they follow the schema. Resolution stops at the first problem, so every
condition of the schema is checked somewhere on the way, and nothing else is. -/

namespace Listfile

open Schema

variable {tree : FileTree} {root : Path}

theorem checkNames_entries_iff {top : Fields} {units : List OutputUnit} {libraries : List ImportedLibrary}
    (unitsRead : (readOutputs tree root top).outcome = .ok units)
    (librariesRead : (readLibraries tree root top).outcome = .ok libraries) :
    checkNames units libraries = .ok () ↔
      ((names top.members Tag.output ++ names top.members Tag.importedLibraries).map Text.lowercase).Nodup := by
  rw [checkNames_eq_ok_iff, readOutputs_names unitsRead, readLibraries_names librariesRead]

theorem Project.ReadFrom.isDescriptor {members : List (String × Json)} {units : List OutputUnit} {project : Project}
    (read : project.ReadFrom tree root ⟨members, none⟩ units) : IsDescriptor tree root members := by
  obtain ⟨cppDeclared, cppDeclaredRead, cppRead⟩ := read.cppStandards
  obtain ⟨cDeclared, cDeclaredRead, cRead⟩ := read.cStandards
  have info := (readInfo_succeeds_iff root _).1 ⟨_, read.info⟩
  exact
    { minimumVersion := info.1
      projectName := info.2
      defaultCStandard := (Fields.optionalScalar_succeeds_iff _ _).1 ⟨_, cDeclaredRead⟩
      defaultCppStandard := (Fields.optionalScalar_succeeds_iff _ _).1 ⟨_, cppDeclaredRead⟩
      allowedCStandards := (readStandards_succeeds_iff _ _ _).1 ⟨_, cRead⟩
      allowedCppStandards := (readStandards_succeeds_iff _ _ _).1 ⟨_, cppRead⟩
      targets := (readTargets_succeeds_iff _).1 ⟨_, read.targets⟩
      defaultTarget := by
        have found := (readDefaultTarget_succeeds_iff _ _).1 ⟨_, read.defaultTarget⟩
        rw [readTargets_names read.targets] at found
        exact found
      outputs := (readOutputs_succeeds_iff _ _ _).1 ⟨_, read.unitsRead⟩
      libraries := (readLibraries_succeeds_iff _ _ _).1 ⟨_, read.libraries⟩
      distinctNames := (checkNames_entries_iff read.unitsRead read.libraries).1 read.names
      links := by
        have found := (readLinkEdges_succeeds_iff _ _ _).1 ⟨_, read.edges⟩
        rw [readOutputs_names read.unitsRead, readLibraries_names read.libraries] at found
        exact found }

theorem Schema.IsDescriptor.readFrom {members : List (String × Json)} (shape : IsDescriptor tree root members) :
    ∃ (project : Project) (units : List OutputUnit), project.ReadFrom tree root ⟨members, none⟩ units := by
  let top : Fields := ⟨members, none⟩
  obtain ⟨info, infoRead⟩ := (readInfo_succeeds_iff root top).2 ⟨shape.minimumVersion, shape.projectName⟩
  obtain ⟨cppDeclared, cppDeclaredRead⟩ := (top.optionalScalar_succeeds_iff _).2 shape.defaultCppStandard
  obtain ⟨cDeclared, cDeclaredRead⟩ := (top.optionalScalar_succeeds_iff _).2 shape.defaultCStandard
  obtain ⟨cppStandards, cppRead⟩ := (readStandards_succeeds_iff top _ (cppDeclared.getD "")).2
    shape.allowedCppStandards
  obtain ⟨cStandards, cRead⟩ := (readStandards_succeeds_iff top _ (cDeclared.getD "")).2 shape.allowedCStandards
  obtain ⟨targets, targetsRead⟩ := (readTargets_succeeds_iff top).2 shape.targets
  obtain ⟨defaultTarget, defaultRead⟩ : ∃ result, readDefaultTarget top targets = .ok result := by
    rw [readDefaultTarget_succeeds_iff, readTargets_names targetsRead]
    exact shape.defaultTarget
  obtain ⟨units, unitsRead⟩ := (readOutputs_succeeds_iff tree root top).2 shape.outputs
  obtain ⟨libraries, librariesRead⟩ := (readLibraries_succeeds_iff tree root top).2 shape.libraries
  have namesRead := (checkNames_entries_iff unitsRead librariesRead).2 shape.distinctNames
  obtain ⟨edges, edgesRead⟩ : ∃ edges, readLinkEdges top units libraries = .ok edges := by
    rw [readLinkEdges_succeeds_iff, readOutputs_names unitsRead, readLibraries_names librariesRead]
    exact shape.links
  exact ⟨⟨info, cStandards, cppStandards, targets, defaultTarget, units.map (OutputUnit.augment libraries edges),
      libraries, edges⟩, units,
    { info := infoRead
      cppStandards := ⟨cppDeclared, cppDeclaredRead, cppRead⟩
      cStandards := ⟨cDeclared, cDeclaredRead, cRead⟩
      targets := targetsRead
      defaultTarget := defaultRead
      unitsRead := unitsRead
      libraries := librariesRead
      names := namesRead
      edges := edgesRead
      outputs := rfl }⟩

/-- Acceptance is exactly the schema, for every tree, every root and every JSON value. -/
theorem resolveDescriptor_succeeds_iff (tree : FileTree) (root : Path) (descriptor : Json) :
    (∃ project, (resolveDescriptor tree root descriptor).outcome = .ok project) ↔
      IsObjectOf (IsDescriptor tree root) descriptor := by
  simp only [resolveDescriptor_eq_ok_iff]
  constructor
  · intro premise
    obtain ⟨project, members, units, isObject, read⟩ := premise
    exact ⟨members, isObject, read.isDescriptor⟩
  · intro premise
    obtain ⟨members, isObject, shape⟩ := premise
    obtain ⟨project, units, read⟩ := shape.readFrom
    exact ⟨project, members, units, isObject, read⟩

end Listfile
