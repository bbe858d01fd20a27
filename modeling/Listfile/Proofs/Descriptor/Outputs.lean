import Listfile.Descriptor.Outputs
import Listfile.Proofs.Descriptor.Discovery
import Listfile.Proofs.Descriptor.Fields

set_option autoImplicit false

/-! What the reader of an output reads, and when it succeeds. What stands in the fields is kept apart from what
the file tree adds to it: the parts of an output are read from its fields alone, and its unit is computed
from the parts. -/

namespace Listfile

open Schema

def outputWord : Option Linkage → String
  | none => "executable"
  | some .static => "static_lib"
  | some .shared => "shared_lib"

theorem readOutputKindWord_eq_ok_iff (fields : Fields) (linkage : Option Linkage) :
    readOutputKindWord fields = .ok linkage ↔
      ∃ word, fields.get? Tag.kind = some (.string word) ∧ Text.lowercase word = outputWord linkage := by
  simp only [readOutputKindWord, bind_eq_ok_iff, Fields.requireText_eq_ok_iff]
  refine exists_congr fun word => and_congr_right fun _present => ?_
  constructor
  · intro read
    split at read
    · rename_i isExecutable
      cases read
      exact isExecutable
    · split at read
      · rename_i isStatic
        cases read
        exact isStatic
      · split at read
        · rename_i isShared
          cases read
          exact isShared
        · cases read
  · intro same
    rw [same]
    cases linkage with
    | none => rfl
    | some linkage => cases linkage <;> rfl

theorem readOutputDirectories_eq_ok_iff (fields : Fields) (linkage : Option Linkage) (kind : OutputKind) :
    readOutputDirectories fields linkage = .ok kind ↔
      match linkage with
      | none => ∃ directory, fields.get? Tag.executableDirectory = some (.string directory) ∧
          kind = .executable directory
      | some linkage => ∃ archive library, fields.get? Tag.archiveDirectory = some (.string archive) ∧
          fields.get? Tag.libraryDirectory = some (.string library) ∧ kind = .library linkage archive library := by
  cases linkage with
  | none =>
      simp only [readOutputDirectories, bind_eq_ok_iff, Fields.requireText_eq_ok_iff]
      refine exists_congr fun directory => and_congr_right fun _present => ?_
      exact ⟨fun same => (Except.ok.inj same).symm, fun same => congrArg Except.ok same.symm⟩
  | some linkage =>
      simp only [readOutputDirectories, bind_eq_ok_iff, Fields.requireText_eq_ok_iff]
      constructor
      · intro premise
        obtain ⟨archive, archiveRead, library, libraryRead, same⟩ := premise
        exact ⟨archive, library, archiveRead, libraryRead, (Except.ok.inj same).symm⟩
      · intro premise
        obtain ⟨archive, library, archiveRead, libraryRead, same⟩ := premise
        exact ⟨archive, archiveRead, library, libraryRead, congrArg Except.ok same.symm⟩

structure OutputParts where
  linkage : Option Linkage
  baseFile : Option String
  sourceDirectories : List String
  headerDirectories : List String
  searchedDirectories : List String
  literalDirectories : List String
  kind : OutputKind

namespace OutputParts

structure ReadFrom (fields : Fields) (parts : OutputParts) : Prop where
  linkage : readOutputKindWord fields = .ok parts.linkage
  baseFile : fields.optionalText Tag.baseFile = .ok parts.baseFile
  sourceDirectories : fields.requireTexts Tag.sourceDirectories (some Reason.sourceDirectories) =
    .ok parts.sourceDirectories
  headerDirectories : fields.requireTexts Tag.headerDirectories (some Reason.headerDirectories) =
    .ok parts.headerDirectories
  searchedDirectories : fields.requireTexts Tag.searchedIncludeDirectories (some Reason.includeDirectories) =
    .ok parts.searchedDirectories
  literalDirectories : fields.optionalTexts Tag.includeDirectories = .ok parts.literalDirectories
  kind : readOutputDirectories fields parts.linkage = .ok parts.kind

def sources (tree : FileTree) (root : Path) (parts : OutputParts) : List String :=
  orderedUnion (orderedUnion (baseSource root parts.baseFile)
    (tree.findFiles root root parts.sourceDirectories sourceSuffixes))
    (tree.findFiles root root parts.headerDirectories headerSuffixes)

def includeDirectories (tree : FileTree) (root : Path) (parts : OutputParts) : List String :=
  orderedUnion (tree.findDirectories root root parts.searchedDirectories)
    (parts.literalDirectories.map normalizeSeparators)

def unit (tree : FileTree) (root : Path) (name : String) (parts : OutputParts) : OutputUnit :=
  ⟨name, parts.kind, parts.sources tree root, parts.includeDirectories tree root⟩

theorem sources_nodup (tree : FileTree) (root : Path) (parts : OutputParts) : (parts.sources tree root).Nodup := by
  have baseDistinct : (baseSource root parts.baseFile).Nodup := by
    cases base : parts.baseFile with
    | none => exact List.nodup_nil
    | some file => exact List.nodup_singleton _
  exact orderedUnion_nodup (orderedUnion_nodup baseDistinct _) _

theorem includeDirectories_nodup (tree : FileTree) (root : Path) (parts : OutputParts) :
    (parts.includeDirectories tree root).Nodup :=
  orderedUnion_nodup (orderedUnion_nodup List.nodup_nil _) _

end OutputParts

theorem readOutputFields_eq_ok_iff (tree : FileTree) (root : Path) (name : String) (fields : Fields)
    (unit : OutputUnit) :
    (readOutputFields tree root name fields).outcome = .ok unit ↔
      ∃ parts : OutputParts, parts.ReadFrom fields ∧ parts.sources tree root ≠ [] ∧
        unit = parts.unit tree root name := by
  simp only [readOutputFields, Attempt.outcome_bind, Attempt.outcome_lift, Attempt.outcome_note, bind_eq_ok_iff]
  constructor
  · intro premise
    obtain ⟨linkage, kindRead, baseFile, baseRead, sourceDirectories, sourcesRead, _, _, headerDirectories,
      headersRead, _, _, rest⟩ := premise
    split at rest
    · cases rest
    · rename_i filled
      simp only [Attempt.outcome_bind, Attempt.outcome_lift, Attempt.outcome_note, bind_eq_ok_iff] at rest
      obtain ⟨searched, searchedRead, _, _, literal, literalRead, kind, directoriesRead, _, _, same⟩ := rest
      refine ⟨⟨linkage, baseFile, sourceDirectories, headerDirectories, searched, literal, kind⟩,
        ⟨kindRead, baseRead, sourcesRead, headersRead, searchedRead, literalRead, directoriesRead⟩, ?_,
        (Except.ok.inj same).symm⟩
      simpa [OutputParts.sources] using filled
  · intro premise
    obtain ⟨parts, read, filled, same⟩ := premise
    refine ⟨parts.linkage, read.linkage, parts.baseFile, read.baseFile, parts.sourceDirectories,
      read.sourceDirectories, (), trivial, parts.headerDirectories, read.headerDirectories, (), trivial, ?_⟩
    have notEmpty : ¬(parts.sources tree root).isEmpty = true := by simpa using filled
    rw [OutputParts.sources] at notEmpty
    rw [if_neg notEmpty]
    simp only [Attempt.outcome_bind, Attempt.outcome_lift, Attempt.outcome_note, bind_eq_ok_iff]
    exact ⟨parts.searchedDirectories, read.searchedDirectories, (), trivial, parts.literalDirectories,
      read.literalDirectories, parts.kind, read.kind, (), trivial, congrArg Except.ok same.symm⟩

theorem readOutput_eq_ok_iff (tree : FileTree) (root : Path) (name : String) (value : Json) (unit : OutputUnit) :
    (readOutput tree root name value).outcome = .ok unit ↔
      ∃ members, value = .object members ∧ ∃ parts : OutputParts, parts.ReadFrom ⟨members, some name⟩ ∧
        parts.sources tree root ≠ [] ∧ unit = parts.unit tree root name := by
  simp only [readOutput, Attempt.outcome_bind, Attempt.outcome_lift, Fields.ofEntry_bind_eq_ok_iff,
    readOutputFields_eq_ok_iff]

theorem readOutputs_eq_ok_iff (tree : FileTree) (root : Path) (top : Fields) (outputs : List OutputUnit) :
    (readOutputs tree root top).outcome = .ok outputs ↔
      ∃ members, top.get? Tag.output = some (.object members) ∧ members ≠ [] ∧
        List.Forall₂ (fun member unit => (readOutput tree root member.1 member.2).outcome = .ok unit)
          members outputs := by
  simp only [readOutputs, Attempt.outcome_bind, Attempt.outcome_lift, bind_eq_ok_iff, Fields.requireObject_eq_ok_iff,
    apply_ite Attempt.outcome, Attempt.outcome_fail, Attempt.outcome_mapM, mapM_filled_eq_ok_iff]

theorem readOutput_name {tree : FileTree} {root : Path} {name : String} {value : Json} {unit : OutputUnit}
    (read : (readOutput tree root name value).outcome = .ok unit) : unit.name = name := by
  obtain ⟨_members, _isObject, parts, _read, _filled, same⟩ := (readOutput_eq_ok_iff _ _ _ _ _).1 read
  rw [same]
  rfl

theorem readOutputs_names {tree : FileTree} {root : Path} {top : Fields} {outputs : List OutputUnit}
    (read : (readOutputs tree root top).outcome = .ok outputs) :
    outputs.map OutputUnit.name = names top.members Tag.output := by
  obtain ⟨members, present, _filled, related⟩ := (readOutputs_eq_ok_iff tree root top outputs).1 read
  rw [names, membersUnder_of_present present]
  refine forall₂_map_eq Prod.fst OutputUnit.name related ?_
  exact fun member unit each => readOutput_name each

/-! ### Success -/

theorem readOutputKindWord_succeeds_iff (fields : Fields) :
    (∃ linkage, readOutputKindWord fields = .ok linkage) ↔
      Required fields.members Tag.kind (IsWordOf ["executable", "static_lib", "shared_lib"]) := by
  have all : ∀ linkage : Option Linkage, linkage ∈ [none, some .static, some .shared] := by
    intro linkage
    cases linkage with
    | none => decide
    | some linkage => cases linkage <;> decide
  exact Fields.kind_succeeds_iff (readOutputKindWord_eq_ok_iff fields) all

theorem outputWord_mem_of_required {fields : Fields} {linkage : Option Linkage} {words : List String}
    (read : readOutputKindWord fields = .ok linkage) (asked : Required fields.members Tag.kind (IsWordOf words)) :
    outputWord linkage ∈ words := by
  obtain ⟨word, present, same⟩ := (readOutputKindWord_eq_ok_iff fields linkage).1 read
  obtain ⟨value, found, other, isText, known⟩ := asked
  have equal : value = .string word := Option.some.inj (found.symm.trans present)
  rw [isText, Json.string.injEq] at equal
  rw [← same, ← equal]
  exact known

theorem required_kind_of_read {fields : Fields} {linkage : Option Linkage} {words : List String}
    (read : readOutputKindWord fields = .ok linkage) (known : outputWord linkage ∈ words) :
    Required fields.members Tag.kind (IsWordOf words) := by
  obtain ⟨word, present, same⟩ := (readOutputKindWord_eq_ok_iff fields linkage).1 read
  exact ⟨_, present, word, rfl, by rw [same]; exact known⟩

theorem readOutputDirectories_succeeds_iff {fields : Fields} {linkage : Option Linkage}
    (read : readOutputKindWord fields = .ok linkage) :
    (∃ kind, readOutputDirectories fields linkage = .ok kind) ↔
      (Required fields.members Tag.kind (IsWordOf ["executable"]) →
        Required fields.members Tag.executableDirectory IsText) ∧
      (Required fields.members Tag.kind (IsWordOf ["static_lib", "shared_lib"]) →
        Required fields.members Tag.archiveDirectory IsText ∧ Required fields.members Tag.libraryDirectory IsText) := by
  simp only [readOutputDirectories_eq_ok_iff]
  cases linkage with
  | none =>
      constructor
      · intro premise
        obtain ⟨kind, directory, present, _same⟩ := premise
        refine ⟨fun _asked => ⟨_, present, directory, rfl⟩, ?_⟩
        intro asked
        exact absurd (outputWord_mem_of_required read asked) (by decide)
      · intro premise
        obtain ⟨ofExecutable, _ofLibrary⟩ := premise
        obtain ⟨value, present, directory, same⟩ := ofExecutable (required_kind_of_read read (by decide))
        rw [same] at present
        exact ⟨.executable directory, directory, present, rfl⟩
  | some linkage =>
      have isLibrary : outputWord (some linkage) ∈ ["static_lib", "shared_lib"] := by cases linkage <;> decide
      have noExecutable : outputWord (some linkage) ∉ ["executable"] := by cases linkage <;> decide
      constructor
      · intro premise
        obtain ⟨kind, archive, library, archivePresent, libraryPresent, _same⟩ := premise
        refine ⟨fun asked => absurd (outputWord_mem_of_required read asked) noExecutable, ?_⟩
        intro _asked
        exact ⟨⟨_, archivePresent, archive, rfl⟩, _, libraryPresent, library, rfl⟩
      · intro premise
        obtain ⟨_ofExecutable, ofLibrary⟩ := premise
        obtain ⟨⟨archiveValue, archivePresent, archive, archiveSame⟩, libraryValue, libraryPresent, library,
          librarySame⟩ := ofLibrary (required_kind_of_read read isLibrary)
        rw [archiveSame] at archivePresent
        rw [librarySame] at libraryPresent
        exact ⟨.library linkage archive library, archive, library, archivePresent, libraryPresent, rfl⟩

namespace OutputParts

theorem sources_ne_nil_iff (tree : FileTree) (root : Path) (parts : OutputParts) :
    parts.sources tree root ≠ [] ↔ parts.baseFile ≠ none ∨
      tree.findFiles root root parts.sourceDirectories sourceSuffixes ≠ [] ∨
      tree.findFiles root root parts.headerDirectories headerSuffixes ≠ [] := by
  have base : baseSource root parts.baseFile = [] ↔ parts.baseFile = none := by
    cases parts.baseFile <;> simp [baseSource]
  rw [sources, Ne, orderedUnion_eq_nil_iff, orderedUnion_eq_nil_iff, base]
  tauto

end OutputParts

theorem leadsToFile_iff {fields : Fields} {tag : String} {reason : Option String} {directories : List String}
    (read : fields.requireTexts tag reason = .ok directories) (tree : FileTree) (root : Path)
    (suffixes : List String) :
    Required fields.members tag (LeadsToFile tree root suffixes) ↔
      tree.findFiles root root directories suffixes ≠ [] := by
  have present := (fields.requireTexts_eq_ok_iff tag reason directories).1 read
  rw [FileTree.findFiles_ne_nil_iff]
  constructor
  · intro premise
    obtain ⟨value, found, others, same, leads⟩ := premise
    have equal : value = .array (directories.map .string) := Option.some.inj (found.symm.trans present)
    rw [same, Json.array.injEq] at equal
    have equalTexts : others = directories := List.map_injective_iff.2 (fun _ _ => Json.string.inj) equal
    rw [← equalTexts]
    exact leads
  · intro leads
    exact ⟨_, present, directories, rfl, leads⟩

theorem readOutput_succeeds_iff (tree : FileTree) (root : Path) (name : String) (value : Json) :
    (∃ unit, (readOutput tree root name value).outcome = .ok unit) ↔ IsObjectOf (IsOutput tree root) value := by
  simp only [readOutput_eq_ok_iff]
  constructor
  · intro premise
    obtain ⟨unit, members, isObject, parts, read, filled, _same⟩ := premise
    have directories := (readOutputDirectories_succeeds_iff read.linkage).1 ⟨parts.kind, read.kind⟩
    refine ⟨members, isObject, ?_⟩
    exact
      { kind := (readOutputKindWord_succeeds_iff _).1 ⟨_, read.linkage⟩
        baseFile := (Fields.optionalText_succeeds_iff _ _).1 ⟨_, read.baseFile⟩
        sourceDirectories := (Fields.requireTexts_succeeds_iff _ _ _).1 ⟨_, read.sourceDirectories⟩
        headerDirectories := (Fields.requireTexts_succeeds_iff _ _ _).1 ⟨_, read.headerDirectories⟩
        searchedIncludeDirectories := (Fields.requireTexts_succeeds_iff _ _ _).1 ⟨_, read.searchedDirectories⟩
        includeDirectories := (Fields.optionalTexts_succeeds_iff _ _).1 ⟨_, read.literalDirectories⟩
        executableDirectory := directories.1
        archiveDirectory := fun asked => (directories.2 asked).1
        libraryDirectory := fun asked => (directories.2 asked).2
        sources := by
          rw [parts.sources_ne_nil_iff, Fields.optionalText_present_iff read.baseFile,
            ← leadsToFile_iff read.sourceDirectories, ← leadsToFile_iff read.headerDirectories] at filled
          exact filled }
  · intro premise
    obtain ⟨members, isObject, shape⟩ := premise
    let fields : Fields := ⟨members, some name⟩
    obtain ⟨linkage, linkageRead⟩ := (readOutputKindWord_succeeds_iff fields).2 shape.kind
    obtain ⟨baseFile, baseRead⟩ := (fields.optionalText_succeeds_iff Tag.baseFile).2 shape.baseFile
    obtain ⟨sourceDirectories, sourcesRead⟩ := (fields.requireTexts_succeeds_iff Tag.sourceDirectories
      (some Reason.sourceDirectories)).2 shape.sourceDirectories
    obtain ⟨headerDirectories, headersRead⟩ := (fields.requireTexts_succeeds_iff Tag.headerDirectories
      (some Reason.headerDirectories)).2 shape.headerDirectories
    obtain ⟨searched, searchedRead⟩ := (fields.requireTexts_succeeds_iff Tag.searchedIncludeDirectories
      (some Reason.includeDirectories)).2 shape.searchedIncludeDirectories
    obtain ⟨literal, literalRead⟩ := (fields.optionalTexts_succeeds_iff Tag.includeDirectories).2
      shape.includeDirectories
    obtain ⟨kind, kindRead⟩ := (readOutputDirectories_succeeds_iff linkageRead).2
      ⟨shape.executableDirectory, fun asked => ⟨shape.archiveDirectory asked, shape.libraryDirectory asked⟩⟩
    let parts : OutputParts := ⟨linkage, baseFile, sourceDirectories, headerDirectories, searched, literal, kind⟩
    refine ⟨parts.unit tree root name, members, isObject, parts,
      ⟨linkageRead, baseRead, sourcesRead, headersRead, searchedRead, literalRead, kindRead⟩, ?_, rfl⟩
    have sources := shape.sources
    rw [parts.sources_ne_nil_iff, Fields.optionalText_present_iff baseRead, ← leadsToFile_iff sourcesRead,
      ← leadsToFile_iff headersRead]
    exact sources

theorem readOutputs_succeeds_iff (tree : FileTree) (root : Path) (top : Fields) :
    (∃ outputs, (readOutputs tree root top).outcome = .ok outputs) ↔
      Required top.members Tag.output (IsFilledMapOf (IsObjectOf (IsOutput tree root))) := by
  simp only [readOutputs_eq_ok_iff]
  exact top.requireEntries_succeeds_iff Tag.output _
    (fun member => (readOutput tree root member.1 member.2).outcome)
    fun member => readOutput_succeeds_iff tree root member.1 member.2

end Listfile
