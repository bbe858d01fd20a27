import Listfile.Proofs.Descriptor.Resolution
import Listfile.Proofs.Json.DistinctKeys

set_option autoImplicit false

/-! What holds of every resolved project: its lists have no duplicates and are filled where something is needed,
names lead to one entry each, and every link refers to an entry of the project. The parts of a descriptor
are read by separate passes; each pass keeps what the passes before it have established. -/

namespace Listfile

structure OutputUnit.Sound (unit : OutputUnit) : Prop where
  filled : unit.sources ≠ []
  sources : unit.sources.Nodup
  includeDirectories : unit.includeDirectories.Nodup

structure ImportedLibrary.Sound (library : ImportedLibrary) : Prop where
  filled : library.files ≠ []
  files : library.files.Nodup
  includeDirectories : library.includeDirectories.Nodup
  headerFiles : library.headerFiles.Nodup

structure LanguageStandards.Sound (standards : LanguageStandards) : Prop where
  active : standards.active ∈ standards.allowed
  declared : standards.declared ≠ "" → standards.declared ∈ standards.allowed →
    standards.active = standards.declared

/-- An edge of a project whose targets were listed by name. -/
structure LinkEdge.Sound (project : Project) (listed : List String) (edge : LinkEdge) : Prop where
  source : ∃ unit ∈ project.outputs, unit.name = edge.source
  distinct : edge.targets.Nodup
  names : edge.targets.map LinkReference.name = listed.eraseDups
  origin : ∀ target ∈ edge.targets, (∃ unit ∈ project.outputs, target = .ofOutput unit) ∨
    ∃ library ∈ project.importedLibraries, target = .ofImported library ∧ 1 ≤ library.files.length

structure Project.Sound (descriptor : Json) (project : Project) : Prop where
  outputs : ∀ unit ∈ project.outputs, unit.Sound
  libraries : ∀ library ∈ project.importedLibraries, library.Sound
  initialTarget : ∃ target ∈ project.targets, project.initialTarget = some target.name
  cStandards : project.cStandards.Sound
  cppStandards : project.cppStandards.Sound
  outputLookup : ∀ unit ∈ project.outputs, project.output? unit.name = some unit
  libraryLookup : ∀ library ∈ project.importedLibraries, project.importedLibrary? library.name = some library
  apart : ∀ unit ∈ project.outputs, ∀ library ∈ project.importedLibraries, unit.name ≠ library.name
  edgeSources : (project.linkEdges.map LinkEdge.source).Nodup
  edgeEntries : project.linkEdges.map LinkEdge.source = (descriptor.membersUnder Tag.linkLibraries).map Prod.fst
  edges : ∀ edge ∈ project.linkEdges, ∃ listed : List String,
    (edge.source, Json.array (listed.map .string)) ∈ descriptor.membersUnder Tag.linkLibraries ∧
      edge.Sound project listed

variable {tree : FileTree} {root : Path}

theorem OutputParts.unit_sound {parts : OutputParts} {name : String} (filled : parts.sources tree root ≠ []) :
    (parts.unit tree root name).Sound where
  filled := filled
  sources := parts.sources_nodup tree root
  includeDirectories := parts.includeDirectories_nodup tree root

theorem LibraryParts.library_sound {parts : LibraryParts} {name : String} (filled : parts.files ≠ []) :
    (parts.library tree root name).Sound where
  filled := by
    rw [library, Ne, orderedUnion_eq_nil_iff]
    intro premise
    obtain ⟨_nothing, empty⟩ := premise
    exact filled (List.map_eq_nil_iff.1 empty)
  files := orderedUnion_nodup List.nodup_nil _
  includeDirectories := orderedUnion_nodup (tree.findDirectories_nodup root _ _) _
  headerFiles := orderedUnion_nodup (tree.findFiles_nodup root _ _ _) _

theorem readOutput_sound {name : String} {value : Json} {unit : OutputUnit}
    (read : (readOutput tree root name value).outcome = .ok unit) : unit.Sound := by
  obtain ⟨_fields, _isObject, parts, _readParts, filled, same⟩ := (readOutput_eq_ok_iff _ _ _ _ _).1 read
  rw [same]
  exact parts.unit_sound filled

theorem readOutputs_sound {top : Fields} {units : List OutputUnit}
    (read : (readOutputs tree root top).outcome = .ok units) : ∀ unit ∈ units, unit.Sound := by
  obtain ⟨members, _present, _filled, related⟩ := (readOutputs_eq_ok_iff tree root top units).1 read
  intro unit member
  obtain ⟨entry, _inMembers, readUnit⟩ := forall₂_exists_left related member
  exact readOutput_sound readUnit

theorem readLibraries_sound {top : Fields} {libraries : List ImportedLibrary}
    (read : (readLibraries tree root top).outcome = .ok libraries) : ∀ library ∈ libraries, library.Sound := by
  obtain ⟨members, _present, related⟩ := (readLibraries_eq_ok_iff tree root top libraries).1 read
  intro library member
  obtain ⟨entry, _inMembers, readEntry⟩ := forall₂_exists_left related member
  obtain ⟨_fields, _isObject, parts, _readParts, filled, same⟩ := (readLibrary_eq_ok_iff _ _ _ _ _).1 readEntry
  rw [same]
  exact parts.library_sound filled

theorem OutputUnit.Sound.augment {unit : OutputUnit} (sound : unit.Sound) (libraries : List ImportedLibrary)
    (edges : List LinkEdge) : (unit.augment libraries edges).Sound where
  filled := by
    rw [OutputUnit.augment, Ne, orderedUnion_eq_nil_iff]
    exact fun empty => sound.filled empty.1
  sources := orderedUnion_nodup sound.sources _
  includeDirectories := orderedUnion_nodup sound.includeDirectories _

theorem readStandards_sound {top : Fields} {tag declared : String} {standards : LanguageStandards}
    (read : (readStandards top tag declared).outcome = .ok standards) : standards.Sound := by
  obtain ⟨_read, filled, _same⟩ := (readStandards_eq_ok_iff top tag declared standards).1 read
  refine ⟨?_, fun named allowed => if_pos ⟨named, allowed⟩⟩
  rw [LanguageStandards.active]
  split
  · rename_i usable
    exact usable.2
  · obtain ⟨first, others, same⟩ := List.exists_cons_of_ne_nil filled
    rw [same]
    exact List.mem_cons_self

theorem initialTarget_declared {top : Fields} {project : Project} (targetsRead : readTargets top = .ok project.targets)
    (defaultRead : readDefaultTarget top project.targets = .ok project.defaultTarget) :
    ∃ target ∈ project.targets, project.initialTarget = some target.name := by
  rcases (readDefaultTarget_eq_ok_iff _ _ _).1 defaultRead with ⟨none, _⟩ | ⟨name, some, _, _, member⟩
  · obtain ⟨first, others, same⟩ := List.exists_cons_of_ne_nil (readTargets_ne_nil targetsRead)
    refine ⟨first, by simp [same], ?_⟩
    rw [Project.initialTarget, none, same]
    rfl
  · obtain ⟨target, inTargets, sameName⟩ := List.mem_map.1 member
    refine ⟨target, inTargets, ?_⟩
    rw [Project.initialTarget, some, sameName]

variable {top : Fields} {units : List OutputUnit} {project : Project}

theorem Project.ReadFrom.edge_sound (read : project.ReadFrom tree root top units)
    (libraries : ∀ library ∈ project.importedLibraries, library.Sound) {members : List (String × Json)}
    {source : String} {value : Json} {edge : LinkEdge}
    (edgeRead : readLinkEdge units project.importedLibraries members source value = .ok edge) :
    edge.source = source ∧ ∃ listed : List String, value = .array (listed.map .string) ∧
      edge.Sound project listed := by
  obtain ⟨isOutput, sameSource, listed, targets, isList, related, sameTargets⟩ :=
    (readLinkEdge_eq_ok_iff _ _ _ _ _ _).1 edgeRead
  refine ⟨sameSource, listed, isList, ?_, ?_, ?_, ?_⟩
  · rw [← read.outputs_names, ← sameSource] at isOutput
    exact List.mem_map.1 isOutput
  · rw [sameTargets]
    exact orderedUnion_nodup List.nodup_nil targets
  · rw [sameTargets]
    exact map_name_orderedUnion_targets related
  · intro target member
    rw [sameTargets, mem_orderedUnion] at member
    obtain ⟨name, _listed, found⟩ := forall₂_exists_left related (member.resolve_left List.not_mem_nil)
    rcases resolveLink_origin found with ⟨unit, inUnits, same⟩ | ⟨library, inLibraries, same⟩
    · refine Or.inl ⟨unit.augment project.importedLibraries project.linkEdges, ?_, same⟩
      rw [read.outputs]
      exact List.mem_map_of_mem inUnits
    · exact Or.inr ⟨library, inLibraries, same, List.length_pos_iff.2 (libraries library inLibraries).filled⟩

theorem readLinkEdges_sources {libraries : List ImportedLibrary} {edges : List LinkEdge}
    (read : readLinkEdges top units libraries = .ok edges) :
    edges.map LinkEdge.source = ((Json.object top.members).membersUnder Tag.linkLibraries).map Prod.fst := by
  obtain ⟨members, present, related⟩ := (readLinkEdges_eq_ok_iff _ _ _ _).1 read
  rw [membersUnder_of_optional present]
  exact forall₂_map_eq Prod.fst LinkEdge.source related
    fun member edge each => ((readLinkEdge_eq_ok_iff _ _ _ _ _ _).1 each).2.1

theorem Json.membersUnder_nodup {value : Json} (distinct : value.distinctKeys = true) (tag : String) :
    ((value.membersUnder tag).map Prod.fst).Nodup := by
  unfold Json.membersUnder
  split
  · rename_i members
    split
    · rename_i inner found
      have member : (tag, Json.object inner) ∈ members := mem_of_lookup_eq_some found
      have innerDistinct := ((Json.distinctKeys_object_iff members).1 distinct).2 _ member
      exact ((Json.distinctKeys_object_iff inner).1 innerDistinct).1
    · exact List.nodup_nil
  · exact List.nodup_nil

theorem Project.ReadFrom.edges_sound {members : List (String × Json)}
    (read : project.ReadFrom tree root ⟨members, none⟩ units) :
    ∀ edge ∈ project.linkEdges, ∃ listed : List String,
      (edge.source, Json.array (listed.map .string)) ∈ (Json.object members).membersUnder Tag.linkLibraries ∧
        edge.Sound project listed := by
  obtain ⟨links, linksPresent, linksRead⟩ := (readLinkEdges_eq_ok_iff _ _ _ _).1 read.edges
  intro edge member
  obtain ⟨link, inLinks, edgeRead⟩ := forall₂_exists_left linksRead member
  obtain ⟨sameSource, listed, isList, sound⟩ := read.edge_sound (readLibraries_sound read.libraries) edgeRead
  refine ⟨listed, ?_, sound⟩
  rw [membersUnder_of_optional linksPresent, sameSource, ← isList]
  exact inLinks

theorem Project.ReadFrom.sound {members : List (String × Json)} (read : project.ReadFrom tree root ⟨members, none⟩ units)
    (distinct : (Json.object members).distinctKeys = true) : project.Sound (.object members) := by
  obtain ⟨_, _, cppRead⟩ := read.cppStandards
  obtain ⟨_, _, cRead⟩ := read.cStandards
  obtain ⟨outputNames, libraryNames, apart⟩ := List.nodup_append'.1 read.entryNames_nodup
  exact
    { outputs := by
        intro unit member
        rw [read.outputs] at member
        obtain ⟨before, inUnits, same⟩ := List.mem_map.1 member
        rw [← same]
        exact (readOutputs_sound read.unitsRead before inUnits).augment _ _
      libraries := readLibraries_sound read.libraries
      initialTarget := initialTarget_declared read.targets read.defaultTarget
      cStandards := readStandards_sound cRead
      cppStandards := readStandards_sound cppRead
      outputLookup := fun unit member => find?_eq_some_of_nodup outputNames member
      libraryLookup := fun library member => find?_eq_some_of_nodup libraryNames member
      apart := fun unit inOutputs library inLibraries same => apart (List.mem_map_of_mem inOutputs)
        (same ▸ List.mem_map_of_mem inLibraries)
      edgeSources := by
        rw [readLinkEdges_sources read.edges]
        exact Json.membersUnder_nodup distinct _
      edgeEntries := readLinkEdges_sources read.edges
      edges := read.edges_sound }

/-- Every project that a descriptor resolves to is sound. The keys of a descriptor are distinct when it was
read from a text. -/
theorem resolveDescriptor_sound (tree : FileTree) (root : Path) (descriptor : Json)
    (distinct : descriptor.distinctKeys = true) (project : Project)
    (resolved : (resolveDescriptor tree root descriptor).outcome = .ok project) : project.Sound descriptor := by
  obtain ⟨members, units, isObject, read⟩ := (resolveDescriptor_eq_ok_iff _ _ _ _).1 resolved
  rw [isObject] at distinct ⊢
  exact read.sound distinct

def linkedSample : Json :=
  Schema.descriptorOf [("debug", Schema.targetEntry ["-g"] ["-g"])]
    [("app", Schema.executableEntry "main.c"), ("tool", Schema.executableEntry "tool.c")]
    [("zip", Schema.libraryEntry "zip" ["libzip.a", "libz.a"] ["include"])]
    [("app", .texts ["zip", "tool", "zip"])]

theorem resolveDescriptor_sound_linkedSample :
    ∃ project, (resolveDescriptor ⟨[], []⟩ ⟨[]⟩ linkedSample).outcome = .ok project ∧
      project.linkEdges = [⟨"app", [.imported "zip" 2, .output "tool"]⟩] ∧ project.Sound linkedSample := by
  obtain ⟨project, resolved, edges⟩ := (map_eq_ok_iff Project.linkEdges _ _).1
    (show (resolveDescriptor ⟨[], []⟩ ⟨[]⟩ linkedSample).outcome.map Project.linkEdges =
      .ok [⟨"app", [.imported "zip" 2, .output "tool"]⟩] from rfl)
  exact ⟨project, resolved, edges, resolveDescriptor_sound _ _ _ (by decide) _ resolved⟩

end Listfile
