import Listfile.Proofs.Descriptor.Configurations
import Listfile.Proofs.Descriptor.Libraries
import Listfile.Proofs.Descriptor.Links
import Listfile.Proofs.Descriptor.Outputs
import Listfile.Proofs.Descriptor.Resolution
import Listfile.Proofs.Descriptor.Rules

set_option autoImplicit false

/-! What is wrong with a descriptor when a problem is reported. Every problem names a place in the descriptor, and the
defect that it reports is found at that place: a rule of the schema is broken there, or a name stands there that
nothing has, or that another entry has too. -/

namespace Listfile

namespace Schema

/-- The objects of a descriptor with the rules that hold for their fields. Problems know the object itself as the top
level, and every other object by the name of its entry. -/
inductive Governs (descriptor : Json) : Option String → List (String × Json) → Rule → Prop where
  | top {members : List (String × Json)} {rule : Rule} :
      descriptor = .object members → rule ∈ topRules → Governs descriptor none members rule
  | target {name : String} {members : List (String × Json)} {rule : Rule} :
      (name, .object members) ∈ descriptor.membersUnder Tag.targets → rule ∈ targetRules →
        Governs descriptor (some name) members rule
  | output {name : String} {members : List (String × Json)} {rule : Rule} :
      (name, .object members) ∈ descriptor.membersUnder Tag.output → rule ∈ outputRules →
        Governs descriptor (some name) members rule
  | executable {name : String} {members : List (String × Json)} {rule : Rule} :
      (name, .object members) ∈ descriptor.membersUnder Tag.output →
        Required members Tag.kind (IsWordOf ["executable"]) → rule ∈ executableRules →
          Governs descriptor (some name) members rule
  | builtLibrary {name : String} {members : List (String × Json)} {rule : Rule} :
      (name, .object members) ∈ descriptor.membersUnder Tag.output →
        Required members Tag.kind (IsWordOf ["static_lib", "shared_lib"]) → rule ∈ builtLibraryRules →
          Governs descriptor (some name) members rule
  | library {name : String} {members : List (String × Json)} {rule : Rule} :
      (name, .object members) ∈ descriptor.membersUnder Tag.importedLibraries → rule ∈ libraryRules →
        Governs descriptor (some name) members rule

/-- An output with nothing to compile: it names no base file, and its searches find no file. -/
structure WithoutSources (tree : FileTree) (root : Path) (members : List (String × Json)) : Prop where
  baseFile : ∀ value, Json.member? members Tag.baseFile = some value → value = .null
  sourceDirectories : Required members Tag.sourceDirectories fun value =>
    ∃ directories, value = .texts directories ∧ tree.findFiles root root directories sourceSuffixes = []
  headerDirectories : Required members Tag.headerDirectories fun value =>
    ∃ directories, value = .texts directories ∧ tree.findFiles root root directories headerSuffixes = []

def kindWords : List (String × List String) := [(Tag.output, outputWords), (Tag.importedLibraries, linkageWords)]

def entriesOf (descriptor : Json) (tag : String) : List String := (descriptor.membersUnder tag).map Prod.fst

def distinctEntries (descriptor : Json) : List (String × String) :=
  (entriesOf descriptor Tag.output).map (fun name => (name, Tag.output)) ++
    (entriesOf descriptor Tag.importedLibraries).map fun name => (name, Tag.importedLibraries)

/-- The defects of a descriptor, each with the problem that reports it. -/
inductive Defect (tree : FileTree) (root : Path) (descriptor : Json) : Problem → Prop where
  | missing {parent reason : Option String} {members : List (String × Json)} {rule : Rule} :
      Governs descriptor parent members rule → rule.Missing members →
        Defect tree root descriptor (.missingField rule.tag parent reason)
  | noObject : ¬IsObject descriptor →
      Defect tree root descriptor (.wrongType descriptorFile none "a JSON object at the top level")
  | misfit {parent : Option String} {members : List (String × Json)} {rule : Rule} :
      Governs descriptor parent members rule → rule.Misfit members →
        Defect tree root descriptor (.wrongType rule.tag parent rule.shape.wording)
  | entry {tag name : String} {shape : Shape} {value : Json} :
      (tag, shape) ∈ entryShapes → (name, value) ∈ descriptor.membersUnder tag → ¬shape.Fits value →
        Defect tree root descriptor (.wrongType name (some tag) shape.wording)
  | unfilled {parent : Option String} {reason : String} {members : List (String × Json)} {rule : Rule} :
      Governs descriptor parent members rule → rule.Unfilled members →
        Defect tree root descriptor (.emptyField rule.tag parent reason)
  | noSources {name reason : String} {members : List (String × Json)} :
      (name, .object members) ∈ descriptor.membersUnder Tag.output → WithoutSources tree root members →
        Defect tree root descriptor (.emptyField Tag.sourceDirectories (some name) reason)
  | kind {tag name word : String} {allowed : List String} {members : List (String × Json)} :
      (tag, allowed) ∈ kindWords → (name, .object members) ∈ descriptor.membersUnder tag →
        Json.member? members Tag.kind = some (.string word) → Text.lowercase word ∉ allowed →
          Defect tree root descriptor (.invalidValue Tag.kind (some name) word allowed)
  | defaultTarget {name : String} {members : List (String × Json)} :
      descriptor = .object members → Json.member? members Tag.defaultTarget = some (.string name) →
        name ∉ entriesOf descriptor Tag.targets →
          Defect tree root descriptor (.unknownReference name Tag.defaultTarget "\"targets\"")
  | source {name : String} : name ∈ entriesOf descriptor Tag.linkLibraries → name ∉ entriesOf descriptor Tag.output →
      Defect tree root descriptor (.unknownReference name Tag.linkLibraries "\"output\"")
  | link {source name : String} {listed : List String} :
      (source, .texts listed) ∈ descriptor.membersUnder Tag.linkLibraries → name ∈ listed →
        name ∉ entriesOf descriptor Tag.output → name ∉ entriesOf descriptor Tag.importedLibraries →
          Defect tree root descriptor
            (.unknownReference name Tag.linkLibraries "\"output\" nor \"imported_libs\"")
  | clash {name previous field : String} {earlier later : List (String × String)} :
      distinctEntries descriptor = earlier ++ (name, field) :: later → previous ∈ earlier.map Prod.fst →
        Text.lowercase previous = Text.lowercase name →
          Defect tree root descriptor (.duplicateName name previous field)

variable {tree : FileTree} {root : Path} {descriptor : Json} {problem : Problem}

theorem Defect.isSchemaProblem (defect : Defect tree root descriptor problem) : problem.isSchemaProblem = true := by
  cases defect <;> rfl

theorem Governs.defect_of_faults {fields : Fields} {rule : Rule}
    (governs : Governs descriptor fields.parent fields.members rule) (faults : fields.Faults rule problem) :
    Defect tree root descriptor problem := by
  cases faults with
  | missing reason absent => exact .missing governs absent
  | misfit broken => exact .misfit governs broken

end Schema

open Schema

variable {tree : FileTree} {root : Path} {descriptor : Json} {name : String} {value : Json} {problem : Problem}

theorem defect_of_entry {β : Type} {tag : String} (isObjectMap : (tag, Shape.object) ∈ entryShapes)
    {next : Fields → Except Problem β} (member : (name, value) ∈ descriptor.membersUnder tag)
    (failed : Fields.ofEntry tag name value >>= next = .error problem)
    (inside : ∀ members, (name, .object members) ∈ descriptor.membersUnder tag →
      next ⟨members, some name⟩ = .error problem → Defect tree root descriptor problem) :
    Defect tree root descriptor problem := by
  by_cases isObject : IsObject value
  · obtain ⟨members, same⟩ := isObject
    rw [same] at member failed
    exact inside members member failed
  · have refused : Fields.ofEntry tag name value = .error (.wrongType name (some tag) Shape.object.wording) := by
      unfold Fields.ofEntry
      split
      · rename_i members
        exact absurd ⟨members, rfl⟩ isObject
      · rfl
    rw [refused] at failed
    cases failed
    exact .entry isObjectMap member isObject

theorem defect_of_kind {κ : Type} {tag : String} {members : List (String × Json)} {allowed : List String}
    {reason : Option String} {next : String → Except Problem κ} (known : (tag, allowed) ∈ kindWords)
    (member : (name, .object members) ∈ descriptor.membersUnder tag)
    (governs : Governs descriptor (some name) members ⟨Tag.kind, .text, .required⟩)
    (failed : (Fields.requireText ⟨members, some name⟩ Tag.kind reason >>= next) = .error problem)
    (refuses : ∀ word, next word = .error problem →
      Text.lowercase word ∉ allowed ∧ problem = .invalidValue Tag.kind (some name) word allowed) :
    Defect tree root descriptor problem := by
  rcases (bind_eq_error_iff _ _ _).1 failed with faulty | ⟨word, read, unknown⟩
  · exact governs.defect_of_faults (Fields.faults_of_requireText (by decide) faulty)
  · obtain ⟨foreign, same⟩ := refuses word unknown
    rw [same]
    exact .kind known member ((Fields.requireText_eq_ok_iff _ _ _ _).1 read) foreign

theorem defect_of_topFields (failed : topFields descriptor = .error problem) : Defect tree root descriptor problem := by
  unfold topFields at failed
  split at failed
  · cases failed
  · rename_i noObject
    cases failed
    refine .noObject ?_
    intro isObject
    obtain ⟨members, same⟩ := isObject
    exact noObject members same

theorem defect_of_readInfo {members : List (String × Json)} (isObject : descriptor = .object members)
    (failed : readInfo root ⟨members, none⟩ = .error problem) : Defect tree root descriptor problem := by
  have governs : ∀ rule ∈ topRules, Governs descriptor none members rule := fun _rule known => .top isObject known
  simp only [readInfo, bind_eq_error_iff] at failed
  rcases failed with faulty | ⟨version, _versionRead, faulty | ⟨name, _nameRead, impossible⟩⟩
  · exact (governs ⟨Tag.minimumVersion, .text, .required⟩ (by decide)).defect_of_faults
      (Fields.faults_of_requireText (by decide) faulty)
  · exact (governs ⟨Tag.projectName, .text, .required⟩ (by decide)).defect_of_faults
      (Fields.faults_of_requireText (by decide) faulty)
  · cases impossible

theorem defect_of_readStandards {members : List (String × Json)} {tag declared : String}
    (governs : Governs descriptor none members ⟨tag, .scalars, .filled⟩)
    (failed : (readStandards ⟨members, none⟩ tag declared).outcome = .error problem) :
    Defect tree root descriptor problem := by
  simp only [readStandards, Attempt.outcome_bind, Attempt.outcome_lift, bind_eq_error_iff] at failed
  rcases failed with faulty | ⟨allowed, read, empty⟩
  · exact governs.defect_of_faults (Fields.faults_of_requireScalars (by decide) faulty)
  · cases allowed with
    | nil =>
        cases empty
        exact .unfilled governs (Fields.unfilled_of_requireScalars read)
    | cons first others => cases empty

theorem defect_of_readTarget (member : (name, value) ∈ descriptor.membersUnder Tag.targets)
    (failed : readTarget name value = .error problem) : Defect tree root descriptor problem := by
  refine defect_of_entry (by decide) member failed ?_
  intro members inTargets failedInside
  have governs : ∀ rule ∈ targetRules, Governs descriptor (some name) members rule :=
    fun _rule known => .target inTargets known
  simp only [bind_eq_error_iff] at failedInside
  rcases failedInside with faulty | ⟨cppFlags, _cppRead, faulty | ⟨cFlags, _cRead, impossible⟩⟩
  · exact (governs ⟨Tag.cppFlags, .texts, .required⟩ (by decide)).defect_of_faults
      (Fields.faults_of_requireTexts (by decide) faulty)
  · exact (governs ⟨Tag.cFlags, .texts, .required⟩ (by decide)).defect_of_faults
      (Fields.faults_of_requireTexts (by decide) faulty)
  · cases impossible

theorem defect_of_entries {β : Type} {members : List (String × Json)} {tag reason : String} {needed : Option String}
    (isObject : descriptor = .object members) (governs : Governs descriptor none members ⟨tag, .object, .filled⟩)
    {read : String × Json → Except Problem β}
    (failed : (Fields.requireObject ⟨members, none⟩ tag needed >>= fun entries =>
      if entries.isEmpty = true then .error (.emptyField tag none reason) else entries.mapM read) = .error problem)
    (inside : ∀ entry ∈ descriptor.membersUnder tag, read entry = .error problem →
      Defect tree root descriptor problem) :
    Defect tree root descriptor problem := by
  rcases (bind_eq_error_iff _ _ _).1 failed with faulty | ⟨entries, present, failedInside⟩
  · exact governs.defect_of_faults (Fields.faults_of_requireObject (by decide) faulty)
  · cases entries with
    | nil =>
        cases failedInside
        exact .unfilled governs (Fields.unfilled_of_requireObject present)
    | cons first others =>
        rw [if_neg (by simp)] at failedInside
        obtain ⟨entry, inEntries, refused⟩ := exists_mem_of_mapM_eq_error failedInside
        have found := membersUnder_of_present ((Fields.requireObject_eq_ok_iff _ _ _ _).1 present)
        refine inside entry ?_ refused
        rw [isObject, found]
        exact inEntries

theorem defect_of_readTargets {members : List (String × Json)} (isObject : descriptor = .object members)
    (failed : readTargets ⟨members, none⟩ = .error problem) : Defect tree root descriptor problem := by
  refine defect_of_entries isObject (.top isObject (by decide)) failed ?_
  intro entry inTargets refused
  exact defect_of_readTarget inTargets refused

theorem defect_of_readDefaultTarget {members : List (String × Json)} {targets : List BuildTarget}
    (isObject : descriptor = .object members)
    (targetNames : targets.map BuildTarget.name = entriesOf descriptor Tag.targets)
    (failed : readDefaultTarget ⟨members, none⟩ targets = .error problem) : Defect tree root descriptor problem := by
  simp only [readDefaultTarget, bind_eq_error_iff] at failed
  rcases failed with faulty | ⟨declared, read, unknown⟩
  · exact (Governs.top isObject (by decide)).defect_of_faults (Fields.faults_of_optionalText faulty)
  · cases declared with
    | none => cases unknown
    | some name =>
        dsimp only at unknown
        split at unknown
        · cases unknown
        · split at unknown
          · cases unknown
          · rename_i noTarget
            cases unknown
            have present := (Fields.optionalText_eq_ok_iff _ _ _).1 read
            refine .defaultTarget isObject ((Fields.optional_eq_some_iff _ _ _).1 present).1 ?_
            rw [← targetNames]
            simpa using noTarget

theorem defect_of_readOutputKindWord {members : List (String × Json)}
    (member : (name, .object members) ∈ descriptor.membersUnder Tag.output)
    (failed : readOutputKindWord ⟨members, some name⟩ = .error problem) : Defect tree root descriptor problem := by
  have known : (Tag.output, outputWords) ∈ kindWords := by decide
  refine defect_of_kind known member (.output member (by decide)) failed ?_
  intro word unknown
  dsimp only at unknown
  split_ifs at unknown with isExecutable isStatic isShared
  · cases unknown
  · cases unknown
  · cases unknown
  · cases unknown
    refine ⟨?_, rfl⟩
    simp [outputWords, isExecutable, isStatic, isShared]

theorem defect_of_readOutputDirectories {members : List (String × Json)} {linkage : Option Linkage}
    (member : (name, .object members) ∈ descriptor.membersUnder Tag.output)
    (kindRead : readOutputKindWord ⟨members, some name⟩ = .ok linkage)
    (failed : readOutputDirectories ⟨members, some name⟩ linkage = .error problem) :
    Defect tree root descriptor problem := by
  cases linkage with
  | none =>
      have governs : ∀ rule ∈ executableRules, Governs descriptor (some name) members rule :=
        fun _rule known => .executable member (required_kind_of_read kindRead (by decide)) known
      simp only [readOutputDirectories, bind_eq_error_iff] at failed
      rcases failed with faulty | ⟨directory, _read, impossible⟩
      · exact (governs ⟨Tag.executableDirectory, .text, .required⟩ (by decide)).defect_of_faults
          (Fields.faults_of_requireText (by decide) faulty)
      · cases impossible
  | some linkage =>
      have isLibrary : outputWord (some linkage) ∈ ["static_lib", "shared_lib"] := by cases linkage <;> decide
      have governs : ∀ rule ∈ builtLibraryRules, Governs descriptor (some name) members rule :=
        fun _rule known => .builtLibrary member (required_kind_of_read kindRead isLibrary) known
      simp only [readOutputDirectories, bind_eq_error_iff] at failed
      rcases failed with faulty | ⟨archive, _archiveRead, faulty | ⟨library, _libraryRead, impossible⟩⟩
      · exact (governs ⟨Tag.archiveDirectory, .text, .required⟩ (by decide)).defect_of_faults
          (Fields.faults_of_requireText (by decide) faulty)
      · exact (governs ⟨Tag.libraryDirectory, .text, .required⟩ (by decide)).defect_of_faults
          (Fields.faults_of_requireText (by decide) faulty)
      · cases impossible

theorem withoutSources_of_read {fields : Fields} {baseFile : Option String}
    {sourceDirectories headerDirectories : List String} {sourceReason headerReason : Option String}
    (baseRead : fields.optionalText Tag.baseFile = .ok baseFile)
    (sourcesRead : fields.requireTexts Tag.sourceDirectories sourceReason = .ok sourceDirectories)
    (headersRead : fields.requireTexts Tag.headerDirectories headerReason = .ok headerDirectories)
    (empty : (orderedUnion (orderedUnion (baseSource root baseFile)
      (tree.findFiles root root sourceDirectories sourceSuffixes))
      (tree.findFiles root root headerDirectories headerSuffixes)).isEmpty = true) :
    WithoutSources tree root fields.members := by
  rw [List.isEmpty_iff, orderedUnion_eq_nil_iff, orderedUnion_eq_nil_iff] at empty
  obtain ⟨⟨noBase, noSource⟩, noHeader⟩ := empty
  have absent : baseFile = none := by simpa [baseSource] using noBase
  rw [absent] at baseRead
  exact
    { baseFile := (fields.optional_eq_none_iff Tag.baseFile).1 ((fields.optionalText_eq_ok_iff _ none).1 baseRead)
      sourceDirectories := ⟨_, (fields.requireTexts_eq_ok_iff _ _ _).1 sourcesRead, _, rfl, noSource⟩
      headerDirectories := ⟨_, (fields.requireTexts_eq_ok_iff _ _ _).1 headersRead, _, rfl, noHeader⟩ }

theorem defect_of_readOutput (member : (name, value) ∈ descriptor.membersUnder Tag.output)
    (failed : (readOutput tree root name value).outcome = .error problem) : Defect tree root descriptor problem := by
  rw [readOutput, Attempt.outcome_bind, Attempt.outcome_lift] at failed
  refine defect_of_entry (by decide) member failed ?_
  intro members inOutputs failedInside
  have governs : ∀ rule ∈ outputRules, Governs descriptor (some name) members rule :=
    fun _rule known => .output inOutputs known
  simp only [readOutputFields, Attempt.outcome_bind, Attempt.outcome_lift, Attempt.outcome_note, ok_bind,
    bind_eq_error_iff] at failedInside
  rcases failedInside with unknown | ⟨linkage, kindRead, faulty | ⟨baseFile, baseRead, faulty |
    ⟨sourceDirectories, sourcesRead, faulty | ⟨headerDirectories, headersRead, rest⟩⟩⟩⟩
  · exact defect_of_readOutputKindWord inOutputs unknown
  · exact (governs _ (by decide)).defect_of_faults (Fields.faults_of_optionalText faulty)
  · exact (governs ⟨Tag.sourceDirectories, .texts, .required⟩ (by decide)).defect_of_faults
      (Fields.faults_of_requireTexts (by decide) faulty)
  · exact (governs ⟨Tag.headerDirectories, .texts, .required⟩ (by decide)).defect_of_faults
      (Fields.faults_of_requireTexts (by decide) faulty)
  · split at rest
    · rename_i empty
      cases rest
      exact .noSources inOutputs (withoutSources_of_read baseRead sourcesRead headersRead empty)
    · simp only [Attempt.outcome_bind, Attempt.outcome_lift, Attempt.outcome_note, ok_bind,
        bind_eq_error_iff] at rest
      rcases rest with faulty | ⟨searched, _searchedRead, faulty | ⟨literal, _literalRead, faulty |
        ⟨kind, _directoriesRead, impossible⟩⟩⟩
      · exact (governs ⟨Tag.searchedIncludeDirectories, .texts, .required⟩ (by decide)).defect_of_faults
          (Fields.faults_of_requireTexts (by decide) faulty)
      · exact (governs _ (by decide)).defect_of_faults (Fields.faults_of_optionalTexts faulty)
      · exact defect_of_readOutputDirectories inOutputs kindRead faulty
      · cases impossible

theorem defect_of_readOutputs {members : List (String × Json)} (isObject : descriptor = .object members)
    (failed : (readOutputs tree root ⟨members, none⟩).outcome = .error problem) :
    Defect tree root descriptor problem := by
  simp only [readOutputs, Attempt.outcome_bind, Attempt.outcome_lift, apply_ite Attempt.outcome,
    Attempt.outcome_fail, Attempt.outcome_mapM] at failed
  refine defect_of_entries isObject (.top isObject (by decide)) failed ?_
  intro entry inOutputs refused
  exact defect_of_readOutput inOutputs refused

theorem defect_of_readLinkage {members : List (String × Json)}
    (member : (name, .object members) ∈ descriptor.membersUnder Tag.importedLibraries)
    (failed : readLinkage ⟨members, some name⟩ = .error problem) : Defect tree root descriptor problem := by
  have known : (Tag.importedLibraries, linkageWords) ∈ kindWords := by decide
  refine defect_of_kind known member (.library member (by decide)) failed ?_
  intro word unknown
  dsimp only at unknown
  split_ifs at unknown with isStatic isShared
  · cases unknown
  · cases unknown
  · cases unknown
    refine ⟨?_, rfl⟩
    simp [linkageWords, isStatic, isShared]

theorem defect_of_readLibrary (member : (name, value) ∈ descriptor.membersUnder Tag.importedLibraries)
    (failed : (readLibrary tree root name value).outcome = .error problem) : Defect tree root descriptor problem := by
  rw [readLibrary, Attempt.outcome_bind, Attempt.outcome_lift] at failed
  refine defect_of_entry (by decide) member failed ?_
  intro members inLibraries failedInside
  have governs : ∀ rule ∈ libraryRules, Governs descriptor (some name) members rule :=
    fun _rule known => .library inLibraries known
  simp only [readLibraryFields, Attempt.outcome_bind, Attempt.outcome_lift, bind_eq_error_iff] at failedInside
  rcases failedInside with unknown | ⟨linkage, _kindRead, faulty | ⟨rootDirectory, _rootRead, faulty |
    ⟨files, filesRead, rest⟩⟩⟩
  · exact defect_of_readLinkage inLibraries unknown
  · exact (governs ⟨Tag.rootDirectory, .text, .required⟩ (by decide)).defect_of_faults
      (Fields.faults_of_requireText (by decide) faulty)
  · exact (governs ⟨Tag.libraryFiles, .texts, .filled⟩ (by decide)).defect_of_faults
      (Fields.faults_of_requireTexts (by decide) faulty)
  · cases files with
    | nil =>
        cases rest
        exact .unfilled (governs ⟨Tag.libraryFiles, .texts, .filled⟩ (by decide))
          (Fields.unfilled_of_requireTexts filesRead)
    | cons first others =>
        rw [if_neg (by simp)] at rest
        simp only [Attempt.outcome_bind, Attempt.outcome_lift, Attempt.outcome_note, ok_bind,
          bind_eq_error_iff] at rest
        rcases rest with faulty | ⟨searched, _searchedRead, faulty | ⟨directories, _directoriesRead, faulty |
          ⟨headers, _headersRead, impossible⟩⟩⟩
        · exact (governs ⟨Tag.searchedIncludeDirectories, .texts, .required⟩ (by decide)).defect_of_faults
            (Fields.faults_of_requireTexts (by decide) faulty)
        · exact (governs _ (by decide)).defect_of_faults (Fields.faults_of_optionalTexts faulty)
        · exact (governs _ (by decide)).defect_of_faults (Fields.faults_of_optionalTexts faulty)
        · cases impossible

theorem defect_of_readLibraries {members : List (String × Json)} (isObject : descriptor = .object members)
    (failed : (readLibraries tree root ⟨members, none⟩).outcome = .error problem) :
    Defect tree root descriptor problem := by
  simp only [readLibraries, Attempt.outcome_bind, Attempt.outcome_lift, Attempt.outcome_mapM,
    bind_eq_error_iff] at failed
  rcases failed with faulty | ⟨entries, read, refused⟩
  · exact (Governs.top isObject (by decide)).defect_of_faults (Fields.faults_of_optionalObject faulty)
  · obtain ⟨entry, inEntries, failedInside⟩ := exists_mem_of_mapM_eq_error refused
    refine defect_of_readLibrary ?_ failedInside
    rw [isObject, membersUnder_of_optional read]
    exact inEntries

theorem defect_of_checkNames {outputs : List OutputUnit} {libraries : List ImportedLibrary}
    (outputNames : outputs.map OutputUnit.name = entriesOf descriptor Tag.output)
    (libraryNames : libraries.map ImportedLibrary.name = entriesOf descriptor Tag.importedLibraries)
    (failed : checkNames outputs libraries = .error problem) : Defect tree root descriptor problem := by
  have names : entryNames outputs libraries = distinctEntries descriptor := by
    rw [distinctEntries, ← outputNames, ← libraryNames, List.map_map, List.map_map]
    rfl
  unfold checkNames at failed
  split at failed
  · rename_i found
    cases failed
    obtain ⟨before, name, field, after, previous, split, known, same⟩ := firstClash_eq_some found
    rw [same]
    rw [names] at split
    rcases known with impossible | ⟨inBefore, folded⟩
    · cases impossible
    · exact .clash split inBefore folded
  · cases failed

theorem defect_of_readLinkEdge {outputs : List OutputUnit} {libraries : List ImportedLibrary}
    {members : List (String × Json)}
    (outputNames : outputs.map OutputUnit.name = entriesOf descriptor Tag.output)
    (libraryNames : libraries.map ImportedLibrary.name = entriesOf descriptor Tag.importedLibraries)
    (member : (name, value) ∈ descriptor.membersUnder Tag.linkLibraries)
    (failed : readLinkEdge outputs libraries members name value = .error problem) :
    Defect tree root descriptor problem := by
  unfold readLinkEdge at failed
  split at failed
  · simp only [bind_eq_error_iff] at failed
    rcases failed with refused | ⟨listed, read, unknown | ⟨targets, _found, impossible⟩⟩
    · have isListMap : (Tag.linkLibraries, Shape.texts) ∈ entryShapes := by decide
      obtain ⟨same, misfit⟩ := Fields.refuses_asTexts _ name .required value problem refused
      rw [same]
      exact .entry isListMap member misfit
    · obtain ⟨target, inListed, foreign⟩ := exists_mem_of_mapM_eq_error unknown
      obtain ⟨noOutput, noLibrary, same⟩ := (resolveLink_eq_error_iff _ _ _ _).1 foreign
      rw [(Fields.asTexts_eq_ok_iff _ _ _ _).1 read] at member
      rw [outputNames] at noOutput
      rw [libraryNames] at noLibrary
      rw [same]
      exact .link member inListed noOutput noLibrary
    · cases impossible
  · rename_i noOutput
    cases failed
    refine .source (List.mem_map_of_mem member) ?_
    rw [← outputNames]
    simpa using noOutput

theorem defect_of_readLinkEdges {outputs : List OutputUnit} {libraries : List ImportedLibrary}
    {members : List (String × Json)} (isObject : descriptor = .object members)
    (outputNames : outputs.map OutputUnit.name = entriesOf descriptor Tag.output)
    (libraryNames : libraries.map ImportedLibrary.name = entriesOf descriptor Tag.importedLibraries)
    (failed : readLinkEdges ⟨members, none⟩ outputs libraries = .error problem) :
    Defect tree root descriptor problem := by
  simp only [readLinkEdges, bind_eq_error_iff] at failed
  rcases failed with faulty | ⟨entries, read, refused⟩
  · exact (Governs.top isObject (by decide)).defect_of_faults (Fields.faults_of_optionalObject faulty)
  · obtain ⟨entry, inEntries, failedInside⟩ := exists_mem_of_mapM_eq_error refused
    refine defect_of_readLinkEdge outputNames libraryNames ?_ failedInside
    rw [isObject, membersUnder_of_optional read]
    exact inEntries

/-- A reported problem is one of the content, and the place that it names has the defect that it reports. -/
theorem resolveDescriptor_reports_defect (tree : FileTree) (root : Path) (descriptor : Json) (problem : Problem)
    (failed : (resolveDescriptor tree root descriptor).outcome = .error problem) :
    problem.isSchemaProblem = true ∧ Defect tree root descriptor problem := by
  suffices defect : Defect tree root descriptor problem from ⟨defect.isSchemaProblem, defect⟩
  simp only [resolveDescriptor, Attempt.outcome_bind, Attempt.outcome_lift, Attempt.outcome_note, ok_bind,
    Attempt.outcome_pure] at failed
  rcases (bind_eq_error_iff _ _ _).1 failed with noObject | ⟨⟨members, parent⟩, topRead, rest⟩
  · exact defect_of_topFields noObject
  obtain ⟨isObject, noParent⟩ := (topFields_eq_ok_iff _ _).1 topRead
  cases noParent
  have namesOf : ∀ tag, entriesOf descriptor tag = names members tag := by
    intro tag
    rw [isObject]
    rfl
  -- One case for each step of the resolution, in the order of the steps.
  simp only [bind_eq_error_iff] at rest
  rcases rest with atInfo | ⟨info, _infoRead, atCppDefault | ⟨cppDefault, _cppDefaultRead, atCDefault |
    ⟨cDefault, _cDefaultRead, atCppStandards | ⟨cppStandards, _cppRead, atCStandards | ⟨cStandards, _cRead, atTargets |
    ⟨targets, targetsRead, atDefaultTarget | ⟨defaultTarget, _defaultRead, atOutputs | ⟨outputs, outputsRead,
    atLibraries | ⟨libraries, librariesRead, atNames | ⟨_, _namesApart, atEdges | ⟨edges, _edgesRead,
    impossible⟩⟩⟩⟩⟩⟩⟩⟩⟩⟩⟩
  · exact defect_of_readInfo isObject atInfo
  · exact (Governs.top isObject (by decide)).defect_of_faults (Fields.faults_of_optionalScalar atCppDefault)
  · exact (Governs.top isObject (by decide)).defect_of_faults (Fields.faults_of_optionalScalar atCDefault)
  · exact defect_of_readStandards (.top isObject (by decide)) atCppStandards
  · exact defect_of_readStandards (.top isObject (by decide)) atCStandards
  · exact defect_of_readTargets isObject atTargets
  · have targetNames := (readTargets_names targetsRead).trans (namesOf Tag.targets).symm
    exact defect_of_readDefaultTarget isObject targetNames atDefaultTarget
  · exact defect_of_readOutputs isObject atOutputs
  · exact defect_of_readLibraries isObject atLibraries
  all_goals
    have outputNames := (readOutputs_names outputsRead).trans (namesOf Tag.output).symm
    have libraryNames := (readLibraries_names librariesRead).trans (namesOf Tag.importedLibraries).symm
  · exact defect_of_checkNames outputNames libraryNames atNames
  · exact defect_of_readLinkEdges isObject outputNames libraryNames atEdges
  · cases impossible

def misspelledLink : Json :=
  descriptorOf [("debug", targetEntry [] [])] [("app", executableEntry "main.c")]
    [("zlib", libraryEntry "lib/zlib" ["z"] [])] [("app", .texts ["zlib", "Zlib"])]

theorem resolveDescriptor_reports_misspelledLink :
    (resolveDescriptor ⟨[], []⟩ (Path.ofString ".") misspelledLink).outcome =
        .error (.unknownReference "Zlib" Tag.linkLibraries "\"output\" nor \"imported_libs\"") ∧
      Problem.isSchemaProblem (.unknownReference "Zlib" Tag.linkLibraries "\"output\" nor \"imported_libs\"") = true ∧
      Defect ⟨[], []⟩ (Path.ofString ".") misspelledLink
        (.unknownReference "Zlib" Tag.linkLibraries "\"output\" nor \"imported_libs\"") := by
  refine ⟨rfl, ?_⟩
  exact resolveDescriptor_reports_defect _ _ _ _ rfl

end Listfile
