import Listfile.Proofs.Project.Soundness

set_option autoImplicit false

/-! What linking changes in the outputs of a project. An output is what was read under its own key, and behind that
come the references to the variables of the libraries that it links, each once. Nothing else changes, and
libraries stay as they were read. -/

namespace Listfile

namespace Project

def importedAmong (project : Project) (targets : List LinkReference) : List ImportedLibrary :=
  targets.filterMap fun target =>
    match target with
    | .output _ => none
    | .imported name _ => project.importedLibrary? name

/-- The libraries that the output of an edge picks up: a library without include directories adds nothing. -/
def pickedUp (project : Project) (edge : LinkEdge) : List ImportedLibrary :=
  (project.importedAmong edge.targets).filter fun library => library.includeDirectories ≠ []

/-- How an output comes from the unit that was read for it. -/
structure Augments (project : Project) (before after : OutputUnit) : Prop where
  name : after.name = before.name
  kind : after.kind = before.kind
  sourcesPrefix : before.sources <+: after.sources
  includesPrefix : before.includeDirectories <+: after.includeDirectories
  /-- What an edge adds comes in the order of its targets, unless it is there already. -/
  linked : ∀ edge ∈ project.linkEdges, edge.source = before.name →
    after.sources = before.sources ++
        (((project.pickedUp edge).map fun library => variableReference library.headerVariable).filter
          fun reference => reference ∉ before.sources).eraseDups ∧
      after.includeDirectories = before.includeDirectories ++
        (((project.pickedUp edge).map fun library => variableReference library.includeVariable).filter
          fun reference => reference ∉ before.includeDirectories).eraseDups
  once : ∀ edge ∈ project.linkEdges, edge.source = before.name → ∀ library ∈ project.pickedUp edge,
    after.sources.count (variableReference library.headerVariable) = 1 ∧
      after.includeDirectories.count (variableReference library.includeVariable) = 1
  untouched : (∀ edge ∈ project.linkEdges, edge.source = before.name →
    ∀ library ∈ project.importedAmong edge.targets, library.includeDirectories = []) → after = before

theorem filterMap_addedLibrary (project : Project) (edge : LinkEdge) :
    edge.targets.filterMap (addedLibrary? project.importedLibraries) = project.pickedUp edge := by
  have each : ∀ target : LinkReference, addedLibrary? project.importedLibraries target =
      (match target with
        | .output _ => none
        | .imported name _ => project.importedLibrary? name).filter fun library =>
          decide (library.includeDirectories ≠ []) := by
    intro target
    cases target with
    | output name => rfl
    | imported name count =>
        change ((project.importedLibrary? name).bind fun library =>
          if library.includeDirectories.isEmpty then none else some library) = (project.importedLibrary? name).filter _
        cases project.importedLibrary? name with
        | none => rfl
        | some library => cases empty : library.includeDirectories <;> simp [Option.filter, empty]
  rw [pickedUp, importedAmong, List.filter_filterMap]
  exact congrArg (edge.targets.filterMap ·) (funext each)

theorem addedLibraries_of_edge {project : Project} (distinct : (project.linkEdges.map LinkEdge.source).Nodup)
    {edge : LinkEdge} (member : edge ∈ project.linkEdges) :
    addedLibraries project.importedLibraries project.linkEdges edge.source = project.pickedUp edge := by
  rw [addedLibraries, filter_eq_singleton_of_nodup distinct member, List.flatMap_singleton, filterMap_addedLibrary]

theorem addedLibraries_eq_nil {project : Project} {source : String}
    (nothing : ∀ edge ∈ project.linkEdges, edge.source = source →
      ∀ library ∈ project.importedAmong edge.targets, library.includeDirectories = []) :
    addedLibraries project.importedLibraries project.linkEdges source = [] := by
  rw [addedLibraries, List.flatMap_eq_nil_iff]
  intro edge member
  obtain ⟨inEdges, fromSource⟩ := List.mem_filter.1 member
  rw [filterMap_addedLibrary, pickedUp, List.filter_eq_nil_iff]
  intro library among
  simpa using nothing edge inEdges (of_decide_eq_true fromSource) library among

theorem prefix_orderedUnion (items additions : List String) : items <+: orderedUnion items additions := by
  rw [orderedUnion_eq_append]
  exact List.prefix_append _ _

theorem count_orderedUnion {items additions : List String} (distinct : items.Nodup) {addition : String}
    (member : addition ∈ additions) : (orderedUnion items additions).count addition = 1 :=
  List.count_eq_one_of_mem (orderedUnion_nodup distinct additions) ((mem_orderedUnion _ _ _).2 (Or.inr member))

theorem augments_of_sound {project : Project} (distinct : (project.linkEdges.map LinkEdge.source).Nodup)
    {before : OutputUnit} (sound : before.Sound) :
    project.Augments before (before.augment project.importedLibraries project.linkEdges) where
  name := rfl
  kind := rfl
  sourcesPrefix := prefix_orderedUnion _ _
  includesPrefix := prefix_orderedUnion _ _
  linked := by
    intro edge member fromOutput
    rw [OutputUnit.augment, ← fromOutput, addedLibraries_of_edge distinct member]
    exact ⟨orderedUnion_eq_append _ _, orderedUnion_eq_append _ _⟩
  once := by
    intro edge member fromOutput library picked
    rw [OutputUnit.augment, ← fromOutput, addedLibraries_of_edge distinct member]
    exact ⟨count_orderedUnion sound.sources (List.mem_map_of_mem picked),
      count_orderedUnion sound.includeDirectories (List.mem_map_of_mem picked)⟩
  untouched := by
    intro nothing
    rw [OutputUnit.augment, addedLibraries_eq_nil nothing]
    rfl

end Project

variable {tree : FileTree} {root : Path} {members : List (String × Json)} {units : List OutputUnit}
  {project : Project}

theorem Project.ReadFrom.augments (read : project.ReadFrom tree root ⟨members, none⟩ units)
    (distinct : (project.linkEdges.map LinkEdge.source).Nodup) :
    List.Forall₂ (fun entry after => ∃ before, (readOutput tree root entry.1 entry.2).outcome = .ok before ∧
      project.Augments before after) ((Json.object members).membersUnder Tag.output) project.outputs := by
  obtain ⟨entries, present, _filled, related⟩ := (readOutputs_eq_ok_iff tree root _ units).1 read.unitsRead
  rw [membersUnder_of_present present, read.outputs, List.forall₂_map_right_iff]
  exact related.imp fun entry before readUnit =>
    ⟨before, readUnit, Project.augments_of_sound distinct (readOutput_sound readUnit)⟩

/-- Every output is what was read for it, augmented along its own edge; the libraries are what was read for them. -/
theorem resolveDescriptor_augments (tree : FileTree) (root : Path) (descriptor : Json)
    (distinct : descriptor.distinctKeys = true) (project : Project)
    (resolved : (resolveDescriptor tree root descriptor).outcome = .ok project) :
    List.Forall₂ (fun entry after => ∃ before, (readOutput tree root entry.1 entry.2).outcome = .ok before ∧
        project.Augments before after) (descriptor.membersUnder Tag.output) project.outputs ∧
      List.Forall₂ (fun entry library => (readLibrary tree root entry.1 entry.2).outcome = .ok library)
        (descriptor.membersUnder Tag.importedLibraries) project.importedLibraries := by
  obtain ⟨members, units, isObject, read⟩ := (resolveDescriptor_eq_ok_iff _ _ _ _).1 resolved
  rw [isObject] at distinct ⊢
  have sources : (project.linkEdges.map LinkEdge.source).Nodup := by
    rw [readLinkEdges_sources read.edges]
    exact Json.membersUnder_nodup distinct _
  obtain ⟨entries, present, related⟩ := (readLibraries_eq_ok_iff tree root _ _).1 read.libraries
  refine ⟨read.augments sources, ?_⟩
  rw [membersUnder_of_optional present]
  exact related

/-- A program that names the include directories of a library itself, and links it twice beside a library without
include directories. -/
def augmentedSample : Json :=
  Schema.descriptorOf [("debug", Schema.targetEntry [] [])]
    [("app", .object [(Tag.kind, .string "executable"), (Tag.baseFile, .string "main.c"),
        (Tag.sourceDirectories, .texts []), (Tag.headerDirectories, .texts []),
        (Tag.searchedIncludeDirectories, .texts []),
        (Tag.includeDirectories, .texts ["own", variableReference "ZIP_INCLUDE_DIRS"]),
        (Tag.executableDirectory, .string "bin")]),
      ("tool", Schema.executableEntry "tool.c")]
    [("raw", Schema.libraryEntry "raw" ["raw"] []), ("zip", Schema.libraryEntry "zip" ["z"] ["include"])]
    [("app", .texts ["zip", "tool", "raw", "zip"]), ("tool", .texts ["raw"])]

theorem resolveDescriptor_augments_augmentedSample :
    ∃ project, (resolveDescriptor ⟨[], []⟩ ⟨[]⟩ augmentedSample).outcome = .ok project ∧
      project.outputs.map OutputUnit.sources = [["main.c", variableReference "ZIP_HEADER_FILES"], ["tool.c"]] ∧
      project.outputs.map OutputUnit.includeDirectories = [["own", variableReference "ZIP_INCLUDE_DIRS"], []] ∧
      List.Forall₂ (fun entry after => ∃ before, (readOutput ⟨[], []⟩ ⟨[]⟩ entry.1 entry.2).outcome = .ok before ∧
        project.Augments before after) (augmentedSample.membersUnder Tag.output) project.outputs := by
  obtain ⟨project, resolved, outputs⟩ := (map_eq_ok_iff Project.outputs _ _).1
    (show (resolveDescriptor ⟨[], []⟩ ⟨[]⟩ augmentedSample).outcome.map Project.outputs =
      .ok [⟨"app", .executable "bin", ["main.c", variableReference "ZIP_HEADER_FILES"],
          ["own", variableReference "ZIP_INCLUDE_DIRS"]⟩, ⟨"tool", .executable "bin", ["tool.c"], []⟩] from rfl)
  refine ⟨project, resolved, ?_, ?_, (resolveDescriptor_augments _ _ _ (by decide) _ resolved).1⟩
  · rw [outputs]
    rfl
  · rw [outputs]
    rfl

end Listfile
