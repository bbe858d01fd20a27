import Listfile.Proofs.Project.Soundness
import Listfile.Proofs.Script.Declarations

set_option autoImplicit false

/-! What a listfile refers to stands before the reference: the identifiers of link statements and of language
standards are declared by then, and the variables that outputs pick up from libraries are set by then. -/

namespace Listfile

open Script

/-- The lines that declare an identifier. -/
inductive Declares (identifier : String) : String → Prop where
  | executable (sources : String) :
      Declares identifier ("add_executable( " ++ identifier ++ " " ++ variableReference sources ++ " )")
  | library (linkage : Linkage) (sources : String) :
      Declares identifier
        ("add_library( " ++ identifier ++ " " ++ linkage.keyword ++ " " ++ variableReference sources ++ " )")
  | imported (linkage : Linkage) :
      Declares identifier ("add_library( " ++ identifier ++ " " ++ linkage.keyword ++ " IMPORTED )")

def isLinkStatement : String → Bool := opensWithAny ["target_link_libraries( "]

/-- The link statement of an edge: what it lists is declared before, and a library is listed as it is declared. -/
structure LinksDeclared (project : Project) (edge : LinkEdge) (found : Occurrence) : Prop where
  subject : found.line = "target_link_libraries( " ++ outputIdentifier edge.source
  listed : found.after.takeWhile (· ≠ ")") = (edge.targets.flatMap LinkReference.linkNames).map ("\t" ++ ·)
  declared : ∀ identifier ∈ outputIdentifier edge.source :: edge.targets.flatMap LinkReference.linkNames,
    ∃ line ∈ found.before, Declares identifier line
  imported : ∀ name count, .imported name count ∈ edge.targets → ∃ library,
    project.importedLibrary? name = some library ∧
      (LinkReference.imported name count).linkNames = library.identifiers ∧
      (importedLibraryLines library).filter isDeclaration = library.identifiers.map fun identifier =>
        "add_library( " ++ identifier ++ " " ++ library.linkage.keyword ++ " IMPORTED )"

/-- A reference of an output to a variable that the libraries have set before the output is written. -/
def Project.SetBefore (project : Project) (unit : OutputUnit) (reference : String) : Prop :=
  ∃ variableName between behind, reference = variableReference variableName ∧
    "set( " ++ variableName ∈ project.librarySection ∧
    project.scriptLines = project.introduction ++ project.librarySection ++ between ++ outputLines unit ++ behind

def standardEnding (language : Language) : String :=
  " PROPERTIES " ++ language.targetProperty ++ " " ++ variableReference language.standardVariable ++ " )"

def setsStandard (language : Language) (line : String) : Bool :=
  opensWith "set_target_properties( " line && endsWith (standardEnding language) line

structure SetsStandard (language : Language) (unit : OutputUnit) (found : Occurrence) : Prop where
  line : found.line = "set_target_properties( " ++ unit.identifier ++ standardEnding language
  declared : ∃ line ∈ found.before, Declares unit.identifier line

/-- References of the listfile of a project that was read from a descriptor. -/
structure Project.RefersBackwards (tree : FileTree) (root : Path) (descriptor : Json) (project : Project) : Prop where
  links : List.Forall₂ (LinksDeclared project) project.linkingEdges
    (occurrences isLinkStatement [] project.scriptLines)
  pickedUp : List.Forall₂ (fun entry after => ∃ before added addedIncludes,
      (readOutput tree root entry.1 entry.2).outcome = .ok before ∧ after.sources = before.sources ++ added ∧
      after.includeDirectories = before.includeDirectories ++ addedIncludes ∧
      ∀ reference ∈ added ++ addedIncludes, project.SetBefore after reference)
    (descriptor.membersUnder Tag.output) project.outputs
  standards : ∀ language, List.Forall₂ (SetsStandard language) project.outputs
    (occurrences (setsStandard language) [] project.scriptLines)

theorem declares_declarationLine (unit : OutputUnit) : Declares unit.identifier (declarationLine unit) := by
  unfold declarationLine
  cases unit.kind with
  | executable directory => exact .executable unit.sourcesVariable
  | library linkage archiveDirectory libraryDirectory => exact .library linkage unit.sourcesVariable

namespace Project

variable {project : Project}

theorem exists_declares_output {unit : OutputUnit} (member : unit ∈ project.outputs) :
    ∃ line ∈ project.outputSection, Declares unit.identifier line := by
  refine ⟨declarationLine unit, List.mem_flatMap.2 ⟨unit, member, ?_⟩, declares_declarationLine unit⟩
  rw [outputLines_eq]
  exact List.mem_append_right _ List.mem_cons_self

theorem exists_declares_imported {library : ImportedLibrary} (member : library ∈ project.importedLibraries)
    {identifier : String} (among : identifier ∈ library.identifiers) :
    ∃ line ∈ project.librarySection, Declares identifier line := by
  have declared : "add_library( " ++ identifier ++ " " ++ library.linkage.keyword ++ " IMPORTED )" ∈
      (importedLibraryLines library).filter isDeclaration := by
    rw [filter_importedLibraryLines]
    exact List.mem_map_of_mem among
  exact ⟨_, List.mem_flatMap.2 ⟨library, member, List.mem_of_mem_filter declared⟩, .imported library.linkage⟩

end Project

theorem linkLine_ne_end (name : String) : "\t" ++ name ≠ ")" := by
  intro same
  have letters := congrArg String.toList same
  rw [String.toList_append] at letters
  exact absurd (List.cons.inj letters).1 (by decide)

theorem occurrences_linkLines (edge : LinkEdge) (before rest : List String) :
    ∃ found : Occurrence, (found.line = "target_link_libraries( " ++ outputIdentifier edge.source ∧
        found.after.takeWhile (· ≠ ")") = (edge.targets.flatMap LinkReference.linkNames).map ("\t" ++ ·)) ∧
      before <+: found.before ∧
      occurrences isLinkStatement before (linkLines edge ++ rest) =
        found :: occurrences isLinkStatement (before ++ linkLines edge) rest := by
  have opens : OpenWith ["\t", ")"] ((edge.targets.flatMap LinkReference.linkNames).map ("\t" ++ ·) ++ [")"]) := by
    simp +decide [hasOpening_append]
  have closing : ∀ line ∈ (edge.targets.flatMap LinkReference.linkNames).map ("\t" ++ ·) ++ [")"],
      isLinkStatement line = false := opens.clear _ (by decide)
  have parted : linkLines edge = "" :: ("target_link_libraries( " ++ outputIdentifier edge.source) ::
      ((edge.targets.flatMap LinkReference.linkNames).map ("\t" ++ ·) ++ [")"]) := rfl
  have isStatement : isLinkStatement ("target_link_libraries( " ++ outputIdentifier edge.source) = true := by
    simp only [isLinkStatement, opensWithAny, List.any_cons, opensWith_append, Bool.true_or]
  refine ⟨⟨before ++ [""], _, (edge.targets.flatMap LinkReference.linkNames).map ("\t" ++ ·) ++ [")"] ++ rest⟩,
    ⟨rfl, ?_⟩, List.prefix_append _ _, ?_⟩
  · dsimp only
    rw [List.append_assoc, List.takeWhile_append_of_pos]
    · rw [List.singleton_append, List.takeWhile_cons_of_neg (by decide), List.append_nil]
    · rw [List.forall_mem_map]
      exact fun name _member => decide_eq_true (linkLine_ne_end name)
  · rw [parted, List.cons_append, occurrences, if_neg (by decide), List.cons_append,
      occurrences_cons_of_test isStatement, occurrences_clear_append closing]
    simp only [List.append_assoc, List.cons_append, List.nil_append]

/-! ### Language standards -/

theorem setsStandard_eq_false {openings lines : List String} (opens : OpenWith openings lines)
    (apart : openings.all (areApart "set_target_properties( ") = true) (language : Language) :
    ∀ line ∈ lines, setsStandard language line = false := by
  intro line member
  rw [setsStandard, opens.notOpen "set_target_properties( " apart line member, Bool.false_and]

theorem setsStandard_self (language : Language) (unit : OutputUnit) :
    setsStandard language ("set_target_properties( " ++ unit.identifier ++ standardEnding language) = true := by
  rw [setsStandard, endsWith_append, String.append_assoc, opensWith_append]
  rfl

theorem setsStandard_other {language other : Language} (different : language ≠ other) (unit : OutputUnit) :
    setsStandard language ("set_target_properties( " ++ unit.identifier ++ standardEnding other) = false := by
  have apart : endApart (standardEnding language) (standardEnding other) = true := by
    revert different
    cases language <;> cases other <;> decide
  rw [setsStandard, endsWith_eq_false_of_apart apart, Bool.and_false]

def settingLine (language : Language) (unit : OutputUnit) : String :=
  "set_target_properties( " ++ unit.identifier ++ standardEnding language

theorem standardLines_eq (language : Language) (standards : LanguageStandards) (outputs : List OutputUnit) :
    ∃ front closing, standardLines language standards outputs =
        front ++ (outputs.flatMap (fun unit => [settingLine language unit]) ++ closing) ∧
      OpenWith ["set( ", "set_property( ", "message( "] (front ++ closing) := by
  refine ⟨["", "set( " ++ language.standardVariable ++ " " ++ quote standards.active ++ " CACHE STRING " ++
      quote language.description ++ " )", "set_property( CACHE " ++ language.standardVariable ++ " PROPERTY STRINGS " ++
      " ".intercalate (standards.allowed.map quote) ++ " )"],
    [messageLine "" ("Using " ++ language.shortName ++ " compiler standard " ++ language.flag ++
      variableReference language.standardVariable)], ?_, ?_⟩
  · rw [← List.map_eq_flatMap, standardLines]
    unfold settingLine standardEnding
    simp only [String.append_assoc, List.append_assoc]
  · simp +decide [messageLine, hasOpening_append, String.append_assoc]

theorem outputLines_setNoStandard (language : Language) (unit : OutputUnit) :
    ∀ line ∈ outputLines unit, setsStandard language line = false := by
  have apart : endApart (standardEnding language) "_CMAKE_OUTPUT" = true := by
    cases language <;> decide
  have properties : setsStandard language ("set_target_properties( " ++ unit.identifier) = false := by
    rw [setsStandard, OutputUnit.identifier, outputIdentifier, ← String.append_assoc,
      endsWith_eq_false_of_apart apart, Bool.and_false]
  have blank : setsStandard language "" = false := rfl
  rw [outputLines_eq, linesBehindDeclaration]
  simp only [List.forall_mem_append, List.forall_mem_cons]
  exact ⟨⟨setsStandard_eq_false (openWith_listLines _ _) (by decide) language, blank, List.forall_mem_nil _⟩,
    setsStandard_eq_false (openWith_declarationLine unit) (by decide) language _ List.mem_cons_self,
    setsStandard_eq_false (openWith_includeLines unit) (by decide) language, blank, properties,
    setsStandard_eq_false (openWith_propertyEntries unit) (by decide) language⟩

theorem standardLines_setNoOther {language other : Language} (different : language ≠ other)
    (standards : LanguageStandards) (outputs : List OutputUnit) :
    ∀ line ∈ standardLines other standards outputs, setsStandard language line = false := by
  obtain ⟨front, closing, same, opens⟩ := standardLines_eq other standards outputs
  rw [OpenWith.append_iff] at opens
  rw [same]
  simp only [List.forall_mem_append, List.forall_mem_flatMap, List.forall_mem_singleton]
  exact ⟨setsStandard_eq_false opens.1 (by decide) language, fun unit _member => setsStandard_other different unit,
    setsStandard_eq_false opens.2 (by decide) language⟩

namespace Project

/-- The lines of one language stand between others that do not set its standard. -/
theorem exists_standardSection_eq (project : Project) (language : Language) :
    ∃ earlier later, project.standardSection =
        earlier ++ (project.outputs.flatMap (fun unit => [settingLine language unit]) ++ later) ∧
      ∀ line ∈ earlier ++ later, setsStandard language line = false := by
  cases language with
  | cpp =>
      obtain ⟨front, closing, same, opens⟩ := standardLines_eq .cpp project.cppStandards project.outputs
      refine ⟨front, closing ++ standardLines .c project.cStandards project.outputs, ?_, ?_⟩
      · rw [standardSection, same]
        simp only [List.append_assoc]
      · rw [← List.append_assoc, List.forall_mem_append]
        exact ⟨setsStandard_eq_false opens (by decide) .cpp, standardLines_setNoOther (by decide) _ _⟩
  | c =>
      obtain ⟨front, closing, same, opens⟩ := standardLines_eq .c project.cStandards project.outputs
      refine ⟨standardLines .cpp project.cppStandards project.outputs ++ front, closing, ?_, ?_⟩
      · rw [standardSection, same]
        simp only [List.append_assoc]
      · rw [List.append_assoc, List.forall_mem_append]
        exact ⟨standardLines_setNoOther (by decide) _ _, setsStandard_eq_false opens (by decide) .c⟩

/-- Every output gets one line for each language, behind all declarations. -/
theorem setsStandard_occurrences (project : Project) (language : Language) :
    List.Forall₂ (SetsStandard language) project.outputs
      (occurrences (setsStandard language) [] project.scriptLines) := by
  obtain ⟨earlier, later, same, clear⟩ := project.exists_standardSection_eq language
  rw [List.forall_mem_append] at clear
  have parted : project.scriptLines = (project.introduction ++ project.librarySection ++ project.outputSection ++
      project.linkSection ++ earlier) ++
        (project.outputs.flatMap (fun unit => [settingLine language unit]) ++ (later ++ project.targetSection)) := by
    rw [scriptLines_eq, same]
    simp only [List.append_assoc]
  -- Only the section of outputs needs care: its lines set properties too, and are told apart by their ending.
  have front : ∀ line ∈ project.introduction ++ project.librarySection ++ project.outputSection ++
      project.linkSection ++ earlier, setsStandard language line = false := by
    simp only [List.forall_mem_append]
    exact ⟨⟨⟨⟨setsStandard_eq_false project.openWith_introduction (by decide) language,
      setsStandard_eq_false project.openWith_librarySection (by decide) language⟩,
      List.forall_mem_flatMap.2 fun unit _member => outputLines_setNoStandard language unit⟩,
      setsStandard_eq_false project.openWith_linkSection (by decide) language⟩, clear.1⟩
  have rest : ∀ line ∈ later ++ project.targetSection, setsStandard language line = false :=
    List.forall_mem_append.2 ⟨clear.2, setsStandard_eq_false project.openWith_targetSection (by decide) language⟩
  have step : ∀ unit before rest, ∃ found : Occurrence, found.line = settingLine language unit ∧
      before <+: found.before ∧ occurrences (setsStandard language) before ([settingLine language unit] ++ rest) =
        found :: occurrences (setsStandard language) (before ++ [settingLine language unit]) rest :=
    fun unit before rest => ⟨_, rfl, List.prefix_refl before,
      occurrences_cons_of_test (setsStandard_self language unit) before rest⟩
  rw [parted, occurrences_clear_append front]
  refine forall₂_imp_of_mem (forall₂_occurrences step rest project.outputs _) fun unit member found _found premise => ?_
  obtain ⟨line, inSection, declares⟩ := exists_declares_output member
  refine ⟨premise.1, line, premise.2.subset ?_, declares⟩
  simp only [List.nil_append, List.mem_append]
  exact Or.inl (Or.inl (Or.inr inSection))

end Project

theorem mem_of_mem_addedLibraries {libraries : List ImportedLibrary} {edges : List LinkEdge} {source : String}
    {library : ImportedLibrary} (member : library ∈ addedLibraries libraries edges source) : library ∈ libraries := by
  obtain ⟨edge, _inEdges, linked⟩ := List.mem_flatMap.1 member
  obtain ⟨target, _inTargets, added⟩ := List.mem_filterMap.1 linked
  cases target with
  | output name => cases added
  | imported name count =>
      obtain ⟨found, isFound, kept⟩ := Option.bind_eq_some_iff.1 added
      split at kept
      · cases kept
      · cases kept
        exact List.mem_of_find?_eq_some isFound

theorem sets_variable_mem_librarySection {project : Project} {library : ImportedLibrary}
    (member : library ∈ project.importedLibraries) :
    "set( " ++ library.includeVariable ∈ project.librarySection ∧
      "set( " ++ library.headerVariable ∈ project.librarySection := by
  have sets : ∀ variableName entries, "set( " ++ variableName ∈ listLines variableName entries :=
    fun variableName entries => by simp [listLines]
  constructor
  · refine List.mem_flatMap.2 ⟨library, member, ?_⟩
    exact List.mem_append_left _ (List.mem_append_left _ (sets _ _))
  · refine List.mem_flatMap.2 ⟨library, member, ?_⟩
    exact List.mem_append_left _ (List.mem_append_right _ (sets _ _))

theorem Project.setBefore_of_mem {project : Project} {unit : OutputUnit} (member : unit ∈ project.outputs)
    {variableName : String} (sets : "set( " ++ variableName ∈ project.librarySection) :
    project.SetBefore unit (variableReference variableName) := by
  obtain ⟨earlier, later, parted⟩ := List.append_of_mem member
  refine ⟨variableName, earlier.flatMap outputLines, later.flatMap outputLines ++ (project.linkSection ++
    (project.standardSection ++ project.targetSection)), rfl, sets, ?_⟩
  rw [scriptLines_eq, outputSection, parted, List.flatMap_append, List.flatMap_cons]
  simp only [List.append_assoc]

theorem OutputUnit.exists_augment_eq_append (libraries : List ImportedLibrary) (edges : List LinkEdge)
    (unit : OutputUnit) : ∃ added addedIncludes,
      (unit.augment libraries edges).sources = unit.sources ++ added ∧
      (unit.augment libraries edges).includeDirectories = unit.includeDirectories ++ addedIncludes ∧
      ∀ reference ∈ added ++ addedIncludes, ∃ library ∈ libraries,
        reference = variableReference library.headerVariable ∨ reference = variableReference library.includeVariable := by
  refine ⟨_, _, orderedUnion_eq_append _ _, orderedUnion_eq_append _ _, fun reference member => ?_⟩
  rw [List.mem_append, List.mem_eraseDups, List.mem_eraseDups, List.mem_filter, List.mem_filter, List.mem_map,
    List.mem_map] at member
  rcases member with ⟨⟨library, added, same⟩, _new⟩ | ⟨⟨library, added, same⟩, _new⟩
  · exact ⟨library, mem_of_mem_addedLibraries added, Or.inl same.symm⟩
  · exact ⟨library, mem_of_mem_addedLibraries added, Or.inr same.symm⟩

/-! ### Projects -/

variable {tree : FileTree} {root : Path} {members : List (String × Json)} {units : List OutputUnit}
  {project : Project}

namespace Project.ReadFrom

/-- An edge lists outputs and libraries of the project, and both are declared. -/
theorem exists_declares_linked (read : project.ReadFrom tree root ⟨members, none⟩ units) {edge : LinkEdge}
    (member : edge ∈ project.linkEdges) {identifier : String}
    (among : identifier ∈ outputIdentifier edge.source :: edge.targets.flatMap LinkReference.linkNames) :
    ∃ line ∈ project.librarySection ++ project.outputSection, Declares identifier line := by
  obtain ⟨_listed, _inDescriptor, sound⟩ := read.edges_sound edge member
  have ofOutput : ∀ unit ∈ project.outputs,
      ∃ line ∈ project.librarySection ++ project.outputSection, Declares (outputIdentifier unit.name) line := by
    intro unit inOutputs
    obtain ⟨line, inSection, declares⟩ := exists_declares_output inOutputs
    exact ⟨line, List.mem_append_right _ inSection, declares⟩
  rcases List.mem_cons.1 among with same | linked
  · obtain ⟨unit, inOutputs, named⟩ := sound.source
    rw [same, ← named]
    exact ofOutput unit inOutputs
  · obtain ⟨target, inTargets, isName⟩ := List.mem_flatMap.1 linked
    rcases sound.origin target inTargets with ⟨unit, inOutputs, same⟩ | ⟨library, inLibraries, same, _filled⟩
    · rw [same] at isName
      rw [List.mem_singleton.1 isName]
      exact ofOutput unit inOutputs
    · rw [same] at isName
      obtain ⟨line, inSection, declares⟩ := exists_declares_imported inLibraries isName
      exact ⟨line, List.mem_append_left _ inSection, declares⟩

theorem imported_linkNames (read : project.ReadFrom tree root ⟨members, none⟩ units) {edge : LinkEdge}
    (member : edge ∈ project.linkEdges) {name : String} {count : Nat} (linked : .imported name count ∈ edge.targets) :
    ∃ library, project.importedLibrary? name = some library ∧
      (LinkReference.imported name count).linkNames = library.identifiers := by
  obtain ⟨_listed, _inDescriptor, sound⟩ := read.edges_sound edge member
  obtain ⟨_outputNames, libraryNames, _apart⟩ := List.nodup_append'.1 read.entryNames_nodup
  rcases sound.origin _ linked with ⟨unit, _inOutputs, same⟩ | ⟨library, inLibraries, same, _filled⟩
  · cases same
  · cases same
    exact ⟨library, find?_eq_some_of_nodup libraryNames inLibraries, rfl⟩

theorem linksDeclared_occurrences (read : project.ReadFrom tree root ⟨members, none⟩ units) :
    List.Forall₂ (LinksDeclared project) project.linkingEdges (occurrences isLinkStatement [] project.scriptLines) := by
  have front : ∀ line ∈ project.introduction ++ (project.librarySection ++ project.outputSection),
      isLinkStatement line = false := by
    simp only [List.forall_mem_append]
    exact ⟨project.openWith_introduction.clear _ (by decide), project.openWith_librarySection.clear _ (by decide),
      project.openWith_outputSection.clear _ (by decide)⟩
  have rest : ∀ line ∈ project.standardSection ++ project.targetSection, isLinkStatement line = false :=
    List.forall_mem_append.2 ⟨project.openWith_standardSection.clear _ (by decide),
      project.openWith_targetSection.clear _ (by decide)⟩
  have parted : project.scriptLines = (project.introduction ++ (project.librarySection ++ project.outputSection)) ++
      (project.linkingEdges.flatMap linkLines ++ (project.standardSection ++ project.targetSection)) := by
    rw [scriptLines_eq, linkSection]
    simp only [List.append_assoc]
  rw [parted, occurrences_clear_append front]
  refine forall₂_imp_of_mem (forall₂_occurrences occurrences_linkLines rest project.linkingEdges _)
    fun edge member found _found premise => ?_
  obtain ⟨⟨subject, listed⟩, earlier⟩ := premise
  have inEdges : edge ∈ project.linkEdges := List.mem_of_mem_filter member
  exact
    { subject := subject
      listed := listed
      declared := by
        intro identifier among
        obtain ⟨line, inSections, declares⟩ := read.exists_declares_linked inEdges among
        exact ⟨line, earlier.subset (List.mem_append_right _ (List.mem_append_right _ inSections)), declares⟩
      imported := by
        intro name count linked
        obtain ⟨library, found, same⟩ := read.imported_linkNames inEdges linked
        exact ⟨library, found, same, filter_importedLibraryLines library⟩ }

theorem setBefore_pickedUp (read : project.ReadFrom tree root ⟨members, none⟩ units) :
    List.Forall₂ (fun entry after => ∃ before added addedIncludes,
        (readOutput tree root entry.1 entry.2).outcome = .ok before ∧ after.sources = before.sources ++ added ∧
        after.includeDirectories = before.includeDirectories ++ addedIncludes ∧
        ∀ reference ∈ added ++ addedIncludes, project.SetBefore after reference)
      ((Json.object members).membersUnder Tag.output) project.outputs := by
  obtain ⟨entries, present, _filled, related⟩ := (readOutputs_eq_ok_iff tree root _ units).1 read.unitsRead
  rw [membersUnder_of_present present, read.outputs, List.forall₂_map_right_iff]
  refine forall₂_imp_of_mem related fun entry _inEntries before inUnits readUnit => ?_
  obtain ⟨added, addedIncludes, sources, includes, fromLibraries⟩ :=
    before.exists_augment_eq_append project.importedLibraries project.linkEdges
  refine ⟨before, added, addedIncludes, readUnit, sources, includes, fun reference member => ?_⟩
  have inOutputs : before.augment project.importedLibraries project.linkEdges ∈ project.outputs := by
    rw [read.outputs]
    exact List.mem_map_of_mem inUnits
  obtain ⟨library, inLibraries, same⟩ := fromLibraries reference member
  obtain ⟨setsIncludes, setsHeaders⟩ := sets_variable_mem_librarySection inLibraries
  rcases same with same | same
  · rw [same]
    exact setBefore_of_mem inOutputs setsHeaders
  · rw [same]
    exact setBefore_of_mem inOutputs setsIncludes

end Project.ReadFrom

/-- Every reference of the listfile of an accepted descriptor is to something that stands before it. -/
theorem resolveDescriptor_refersBackwards (tree : FileTree) (root : Path) (descriptor : Json) (project : Project)
    (resolved : (resolveDescriptor tree root descriptor).outcome = .ok project) :
    project.RefersBackwards tree root descriptor := by
  obtain ⟨members, units, isObject, read⟩ := (resolveDescriptor_eq_ok_iff _ _ _ _).1 resolved
  rw [isObject]
  exact
    { links := read.linksDeclared_occurrences
      pickedUp := read.setBefore_pickedUp
      standards := project.setsStandard_occurrences }

theorem resolveDescriptor_refersBackwards_linkedSample :
    ∃ project, (resolveDescriptor ⟨[], []⟩ ⟨[]⟩ linkedSample).outcome = .ok project ∧
      project.linkingEdges.map (fun edge => edge.targets.flatMap LinkReference.linkNames) =
        [["zip_0", "zip_1", "TOOL_CMAKE_OUTPUT"]] ∧
      project.RefersBackwards ⟨[], []⟩ ⟨[]⟩ linkedSample := by
  obtain ⟨project, resolved, edges⟩ := (map_eq_ok_iff Project.linkEdges _ _).1
    (show (resolveDescriptor ⟨[], []⟩ ⟨[]⟩ linkedSample).outcome.map Project.linkEdges =
      .ok [⟨"app", [.imported "zip" 2, .output "tool"]⟩] from rfl)
  refine ⟨project, resolved, ?_, resolveDescriptor_refersBackwards _ _ _ _ resolved⟩
  rw [Project.linkingEdges, edges]
  decide

end Listfile
