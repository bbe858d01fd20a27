import Listfile.Proofs.Descriptor.Agreement
import Listfile.Proofs.Project.Soundness
import Mathlib.Data.List.Perm.Basic

set_option autoImplicit false

/-! Entries in another order. Each output, library and link is read on its own, and where one is looked up by its name
there is only one that has the name. So a descriptor whose entries are reordered is resolved to the same
values, in the order of the entries. -/

namespace Listfile

def listedTags : List String := [Tag.output, Tag.importedLibraries, Tag.linkLibraries]

/-- A member of a descriptor, before and after the entries of these maps were reordered. -/
inductive ReorderedMember : String × Json → String × Json → Prop where
  | same (member : String × Json) : ReorderedMember member member
  | entries {tag : String} (listed : tag ∈ listedTags) {entries others : List (String × Json)}
    (order : entries.Perm others) : ReorderedMember (tag, .object entries) (tag, .object others)

inductive ReorderedDescriptor : Json → Json → Prop where
  | object {members others : List (String × Json)} (each : List.Forall₂ ReorderedMember members others) :
    ReorderedDescriptor (.object members) (.object others)

section

variable {members others : List (String × Json)} (each : List.Forall₂ ReorderedMember members others)

include each

theorem member?_reordered (tag : String) :
    Json.member? members tag = Json.member? others tag ∨
      tag ∈ listedTags ∧ ∃ entries reordered, Json.member? members tag = some (.object entries) ∧
        Json.member? others tag = some (.object reordered) ∧ entries.Perm reordered := by
  induction each with
  | nil => exact Or.inl rfl
  | @cons first other members others related _later ih =>
      cases related with
      | same =>
          obtain ⟨key, value⟩ := first
          rw [Json.member?, Json.member?, List.lookup_cons, List.lookup_cons]
          split
          · exact Or.inl rfl
          · exact ih
      | @entries key listed entries reordered order =>
          rw [Json.member?, Json.member?, List.lookup_cons, List.lookup_cons]
          split
          · rename_i isKey
            rw [beq_iff_eq] at isKey
            exact Or.inr ⟨isKey ▸ listed, entries, reordered, rfl, rfl, order⟩
          · exact ih

theorem member?_of_not_listed {tag : String} (unlisted : tag ∉ listedTags) :
    Json.member? members tag = Json.member? others tag :=
  (member?_reordered each tag).resolve_right fun premise => unlisted premise.1

theorem optional_of_not_listed {tag : String} (unlisted : tag ∉ listedTags) :
    Fields.optional ⟨members, none⟩ tag = Fields.optional ⟨others, none⟩ tag := by
  simp only [Fields.optional, Fields.get?, member?_of_not_listed each unlisted]

theorem get?_object_reordered {parent : Option String} {tag : String} {entries : List (String × Json)}
    (present : Fields.get? ⟨members, parent⟩ tag = some (.object entries)) :
    ∃ reordered, Fields.get? ⟨others, parent⟩ tag = some (.object reordered) ∧ entries.Perm reordered := by
  rcases member?_reordered each tag with same | ⟨_listed, before, after, inMembers, inOthers, order⟩
  · exact ⟨entries, same.symm.trans present, .refl _⟩
  · cases inMembers.symm.trans present
    exact ⟨after, inOthers, order⟩

theorem optionalObject_reordered {parent : Option String} {tag : String} {entries : List (String × Json)}
    (read : Fields.optionalObject ⟨members, parent⟩ tag = .ok entries) :
    ∃ reordered, Fields.optionalObject ⟨others, parent⟩ tag = .ok reordered ∧ entries.Perm reordered := by
  rcases member?_reordered each tag with same | ⟨_listed, before, after, inMembers, inOthers, order⟩
  · refine ⟨entries, ?_, .refl _⟩
    rw [← read]
    simp only [Fields.optionalObject, Fields.optional, Fields.get?, same]
    rfl
  · have readBefore : Fields.optionalObject ⟨members, parent⟩ tag = .ok before := by
      simp only [Fields.optionalObject, Fields.optional, Fields.get?, inMembers]
      rfl
    cases readBefore.symm.trans read
    refine ⟨after, ?_, order⟩
    simp only [Fields.optionalObject, Fields.optional, Fields.get?, inOthers]
    rfl

end

/-- Every entry has one value, and the values stand in the order of the entries, before and after. -/
def SameValues {α : Type} (entries reordered : List (String × Json)) (values others : List α) : Prop :=
  ∃ value : String × Json → Option α, entries.map value = values.map some ∧ reordered.map value = others.map some

section

variable {α β : Type} {entries reordered : List (String × Json)} {values others : List α}

theorem exists_sameValues (read : String × Json → Except Problem α)
    (related : List.Forall₂ (fun entry value => read entry = .ok value) entries values)
    (order : entries.Perm reordered) :
    ∃ others, List.Forall₂ (fun entry value => read entry = .ok value) reordered others ∧ values.Perm others ∧
      SameValues entries reordered values others := by
  obtain ⟨others, relatedToo, valueOrder⟩ := List.perm_comp_forall₂ order.symm related
  have each : ∀ entry value, read entry = .ok value → some value = (read entry).toOption := by
    intro entry value isRead
    rw [isRead]
    rfl
  exact ⟨others, relatedToo, valueOrder.symm, fun entry => (read entry).toOption,
    (forall₂_map_eq _ some related each).symm, (forall₂_map_eq _ some relatedToo each).symm⟩

theorem SameValues.map (same : SameValues entries reordered values others) (change : α → β) :
    SameValues entries reordered (values.map change) (others.map change) := by
  obtain ⟨value, before, after⟩ := same
  refine ⟨fun entry => (value entry).map change, ?_, ?_⟩
  · rw [← Function.comp_def, ← List.map_map, before, List.map_map, List.map_map]
    rfl
  · rw [← Function.comp_def, ← List.map_map, after, List.map_map, List.map_map]
    rfl

end

section

variable {units otherUnits : List OutputUnit} {libraries otherLibraries : List ImportedLibrary}
  (unitNames : (units.map OutputUnit.name).Nodup) (unitOrder : units.Perm otherUnits)
  (libraryNames : (libraries.map ImportedLibrary.name).Nodup) (libraryOrder : libraries.Perm otherLibraries)

include libraryNames libraryOrder

theorem addedLibrary?_reordered : addedLibrary? libraries = addedLibrary? otherLibraries := by
  funext target
  cases target with
  | output name => rfl
  | imported name count => rw [addedLibrary?, addedLibrary?, find?_eq_of_perm libraryNames libraryOrder]

/-- An output has one edge at most, so the order of the edges does not count either. -/
theorem augment_reordered {edges otherEdges : List LinkEdge} (sources : (edges.map LinkEdge.source).Nodup)
    (edgeOrder : edges.Perm otherEdges) :
    OutputUnit.augment libraries edges = OutputUnit.augment otherLibraries otherEdges := by
  have added : ∀ source, addedLibraries libraries edges source = addedLibraries otherLibraries otherEdges source := by
    intro source
    have single : edges.filter (·.source = source) = otherEdges.filter (·.source = source) := by
      by_cases linked : ∃ edge ∈ edges, edge.source = source
      · obtain ⟨edge, member, fromSource⟩ := linked
        have otherSources := (edgeOrder.map LinkEdge.source).nodup_iff.1 sources
        rw [← fromSource, filter_eq_singleton_of_nodup sources member,
          filter_eq_singleton_of_nodup otherSources (edgeOrder.mem_iff.1 member)]
      · have nothing : edges.filter (·.source = source) = [] :=
          List.filter_eq_nil_iff.2 fun edge member fromSource => linked ⟨edge, member, of_decide_eq_true fromSource⟩
        have order := edgeOrder.filter (·.source = source)
        rw [nothing] at order ⊢
        exact order.nil_eq
    rw [addedLibraries, addedLibraries, single, addedLibrary?_reordered libraryNames libraryOrder]
  funext unit
  rw [OutputUnit.augment, OutputUnit.augment, added]

include unitNames unitOrder

theorem resolveLink_reordered (name : String) :
    resolveLink units libraries name = resolveLink otherUnits otherLibraries name := by
  rw [resolveLink, resolveLink, find?_eq_of_perm unitNames unitOrder, find?_eq_of_perm libraryNames libraryOrder]

theorem readLinkEdge_reordered {links otherLinks : List (String × Json)} {source : String} {value : Json}
    {edge : LinkEdge} (read : readLinkEdge units libraries links source value = .ok edge) :
    readLinkEdge otherUnits otherLibraries otherLinks source value = .ok edge := by
  obtain ⟨isOutput, sameSource, listed, targets, isList, related, sameTargets⟩ :=
    (readLinkEdge_eq_ok_iff _ _ _ _ _ _).1 read
  refine (readLinkEdge_eq_ok_iff _ _ _ _ _ _).2 ⟨(unitOrder.map OutputUnit.name).mem_iff.1 isOutput, sameSource, listed,
    targets, isList, related.imp fun name target found => ?_, sameTargets⟩
  rw [← resolveLink_reordered unitNames unitOrder libraryNames libraryOrder]
  exact found

end

/-! ### Projects -/

/-- A project with the entries of its lists in another order, and nothing else changed. -/
structure Project.ReorderedAs (descriptor other : Json) (project reordered : Project) : Prop where
  info : reordered.info = project.info
  cStandards : reordered.cStandards = project.cStandards
  cppStandards : reordered.cppStandards = project.cppStandards
  targets : reordered.targets = project.targets
  defaultTarget : reordered.defaultTarget = project.defaultTarget
  outputs : SameValues (descriptor.membersUnder Tag.output) (other.membersUnder Tag.output) project.outputs
    reordered.outputs
  importedLibraries : SameValues (descriptor.membersUnder Tag.importedLibraries)
    (other.membersUnder Tag.importedLibraries) project.importedLibraries reordered.importedLibraries
  linkEdges : SameValues (descriptor.membersUnder Tag.linkLibraries) (other.membersUnder Tag.linkLibraries)
    project.linkEdges reordered.linkEdges

def Project.withEntries (project : Project) (units : List OutputUnit) (libraries : List ImportedLibrary)
    (edges : List LinkEdge) : Project :=
  { project with
    outputs := units.map (OutputUnit.augment libraries edges)
    importedLibraries := libraries
    linkEdges := edges }

variable {tree : FileTree} {root : Path} {members others : List (String × Json)}

section

variable (each : List.Forall₂ ReorderedMember members others)

include each

theorem readInfo_reordered : readInfo root ⟨members, none⟩ = readInfo root ⟨others, none⟩ := by
  unfold readInfo
  rw [Fields.requireText_congr (member?_of_not_listed each (by decide)),
    Fields.requireText_congr (member?_of_not_listed each (by decide))]

theorem readDefaultTarget_reordered (targets : List BuildTarget) :
    readDefaultTarget ⟨members, none⟩ targets = readDefaultTarget ⟨others, none⟩ targets := by
  unfold readDefaultTarget
  rw [Fields.optionalText_congr (optional_of_not_listed each (by decide))]

theorem readTargets_reordered : readTargets ⟨members, none⟩ = readTargets ⟨others, none⟩ := by
  refine readTargets_congr ?_
  rw [member?_of_not_listed each (by decide)]
  exact .same _

theorem standards_reordered {allowed default : String} (allowedUnlisted : allowed ∉ listedTags)
    (defaultUnlisted : default ∉ listedTags) {standards : LanguageStandards}
    (read : ∃ declared, Fields.optionalScalar ⟨members, none⟩ default = .ok declared ∧
      (readStandards ⟨members, none⟩ allowed (declared.getD "")).outcome = .ok standards) :
    ∃ declared, Fields.optionalScalar ⟨others, none⟩ default = .ok declared ∧
      (readStandards ⟨others, none⟩ allowed (declared.getD "")).outcome = .ok standards := by
  rw [← Fields.optionalScalar_congr (optional_of_not_listed each defaultUnlisted)]
  simp only [← readStandards_congr (member?_of_not_listed each allowedUnlisted)]
  exact read

end

theorem checkNames_reordered {units otherUnits : List OutputUnit} {libraries otherLibraries : List ImportedLibrary}
    (checked : checkNames units libraries = .ok ()) (unitOrder : units.Perm otherUnits)
    (libraryOrder : libraries.Perm otherLibraries) : checkNames otherUnits otherLibraries = .ok () := by
  rw [checkNames_eq_ok_iff] at checked ⊢
  have order := (unitOrder.map OutputUnit.name).append (libraryOrder.map ImportedLibrary.name)
  exact ((order.map Text.lowercase).nodup_iff).1 checked

theorem Project.ReadFrom.reorder {units : List OutputUnit} {project : Project}
    (read : project.ReadFrom tree root ⟨members, none⟩ units) (distinct : (Json.object members).distinctKeys = true)
    (each : List.Forall₂ ReorderedMember members others) :
    ∃ otherUnits reordered, Project.ReadFrom tree root ⟨others, none⟩ otherUnits reordered ∧
      project.ReorderedAs (.object members) (.object others) reordered := by
  obtain ⟨entries, present, filled, unitsRelated⟩ := (readOutputs_eq_ok_iff tree root _ units).1 read.unitsRead
  obtain ⟨libraryEntries, librariesPresent, librariesRelated⟩ :=
    (readLibraries_eq_ok_iff tree root _ _).1 read.libraries
  obtain ⟨links, linksPresent, linksRelated⟩ := (readLinkEdges_eq_ok_iff _ _ _ _).1 read.edges
  obtain ⟨otherEntries, otherPresent, entryOrder⟩ := get?_object_reordered each present
  obtain ⟨otherLibraryEntries, otherLibrariesPresent, libraryEntryOrder⟩ :=
    optionalObject_reordered each librariesPresent
  obtain ⟨otherLinks, otherLinksPresent, linkOrder⟩ := optionalObject_reordered each linksPresent
  obtain ⟨otherUnits, otherUnitsRelated, unitOrder, sameUnits⟩ :=
    exists_sameValues (fun entry => (readOutput tree root entry.1 entry.2).outcome) unitsRelated entryOrder
  obtain ⟨otherLibraries, otherLibrariesRelated, libraryOrder, sameLibraries⟩ :=
    exists_sameValues (fun entry => (readLibrary tree root entry.1 entry.2).outcome) librariesRelated
      libraryEntryOrder
  obtain ⟨otherEdges, otherEdgesRelated, edgeOrder, sameEdges⟩ :=
    exists_sameValues (fun entry => readLinkEdge units project.importedLibraries links entry.1 entry.2)
      linksRelated linkOrder
  have unitNames := checkNames_outputs read.names
  have libraryNames := (List.nodup_append'.1 read.entryNames_nodup).2.1
  have sources : (project.linkEdges.map LinkEdge.source).Nodup := by
    rw [readLinkEdges_sources read.edges]
    exact Json.membersUnder_nodup distinct _
  have otherRead : (project.withEntries otherUnits otherLibraries otherEdges).ReadFrom tree root ⟨others, none⟩
      otherUnits :=
    { info := (readInfo_reordered each).symm.trans read.info
      cppStandards := standards_reordered each (by decide) (by decide) read.cppStandards
      cStandards := standards_reordered each (by decide) (by decide) read.cStandards
      targets := (readTargets_reordered each).symm.trans read.targets
      defaultTarget := (readDefaultTarget_reordered each project.targets).symm.trans read.defaultTarget
      unitsRead := (readOutputs_eq_ok_iff _ _ _ _).2 ⟨otherEntries, otherPresent,
        fun empty => filled (List.perm_nil.1 (empty ▸ entryOrder)), otherUnitsRelated⟩
      libraries := (readLibraries_eq_ok_iff _ _ _ _).2
        ⟨otherLibraryEntries, otherLibrariesPresent, otherLibrariesRelated⟩
      names := checkNames_reordered read.names unitOrder libraryOrder
      edges := (readLinkEdges_eq_ok_iff _ _ _ _).2 ⟨otherLinks, otherLinksPresent, otherEdgesRelated.imp
        fun _entry _edge isRead => readLinkEdge_reordered unitNames unitOrder libraryNames libraryOrder isRead⟩
      outputs := rfl }
  refine ⟨otherUnits, _, otherRead, ⟨rfl, rfl, rfl, rfl, rfl, ?_, ?_, ?_⟩⟩
  · rw [membersUnder_of_present present, membersUnder_of_present otherPresent, read.outputs,
      augment_reordered libraryNames libraryOrder sources edgeOrder]
    exact sameUnits.map _
  · rw [membersUnder_of_optional librariesPresent, membersUnder_of_optional otherLibrariesPresent]
    exact sameLibraries
  · rw [membersUnder_of_optional linksPresent, membersUnder_of_optional otherLinksPresent]
    exact sameEdges

/-- A descriptor whose outputs, libraries and links are reordered is resolved to the same outputs, libraries and
links in the order of their entries, and to the same project otherwise. -/
theorem resolveDescriptor_reordered (tree : FileTree) (root : Path) {descriptor other : Json}
    (distinct : descriptor.distinctKeys = true) (reorders : ReorderedDescriptor descriptor other) (project : Project)
    (resolved : (resolveDescriptor tree root descriptor).outcome = .ok project) :
    ∃ reordered, (resolveDescriptor tree root other).outcome = .ok reordered ∧
      project.ReorderedAs descriptor other reordered := by
  obtain ⟨members, units, isObject, read⟩ := (resolveDescriptor_eq_ok_iff _ _ _ _).1 resolved
  subst isObject
  cases reorders with
  | object each =>
      obtain ⟨otherUnits, reordered, otherRead, same⟩ := read.reorder distinct each
      exact ⟨reordered, (resolveDescriptor_eq_ok_iff _ _ _ _).2 ⟨_, otherUnits, rfl, otherRead⟩, same⟩

def arrangedSample (arrange : List (String × Json) → List (String × Json)) : Json :=
  Schema.descriptorOf [("debug", Schema.targetEntry ["-g"] ["-g"]), ("release", Schema.targetEntry ["-O2"] ["-O2"])]
    (arrange [("app", Schema.executableEntry "main.c"), ("tool", Schema.executableEntry "tool.c")])
    (arrange [("raw", Schema.libraryEntry "raw" ["raw"] ["."]), ("zip", Schema.libraryEntry "zip" ["z"] ["include"])])
    (arrange [("app", .texts ["zip", "tool", "raw"]), ("tool", .texts ["raw", "zip"])])

theorem arrangedSample_reordered (arrange : List (String × Json) → List (String × Json))
    (arranges : ∀ entries, List.Perm entries (arrange entries)) :
    ReorderedDescriptor (arrangedSample id) (arrangedSample arrange) :=
  .object (.cons (.same _) (.cons (.same _) (.cons (.same _) (.cons (.same _) (.cons (.same _)
    (.cons (.entries (by decide) (arranges _)) (.cons (.entries (by decide) (arranges _))
      (.cons (.entries (by decide) (arranges _)) .nil))))))))

theorem resolveDescriptor_reordered_arrangedSample :
    ∃ project reordered, (resolveDescriptor ⟨[], []⟩ ⟨[]⟩ (arrangedSample id)).outcome = .ok project ∧
      (resolveDescriptor ⟨[], []⟩ ⟨[]⟩ (arrangedSample List.reverse)).outcome = .ok reordered ∧
      project.outputs =
        [⟨"app", .executable "bin",
            ["main.c", variableReference "ZIP_HEADER_FILES", variableReference "RAW_HEADER_FILES"],
            [variableReference "ZIP_INCLUDE_DIRS", variableReference "RAW_INCLUDE_DIRS"]⟩,
          ⟨"tool", .executable "bin",
            ["tool.c", variableReference "RAW_HEADER_FILES", variableReference "ZIP_HEADER_FILES"],
            [variableReference "RAW_INCLUDE_DIRS", variableReference "ZIP_INCLUDE_DIRS"]⟩] ∧
      project.ReorderedAs (arrangedSample id) (arrangedSample List.reverse) reordered := by
  obtain ⟨project, resolved, outputs⟩ := (map_eq_ok_iff Project.outputs _ _).1
    (show (resolveDescriptor ⟨[], []⟩ ⟨[]⟩ (arrangedSample id)).outcome.map Project.outputs = .ok _ from rfl)
  obtain ⟨reordered, resolvedToo, same⟩ := resolveDescriptor_reordered ⟨[], []⟩ ⟨[]⟩ (by decide)
    (arrangedSample_reordered List.reverse fun entries => entries.reverse_perm.symm) project resolved
  exact ⟨project, reordered, resolved, resolvedToo, outputs, same⟩

end Listfile
