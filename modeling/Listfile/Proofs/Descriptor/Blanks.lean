import Listfile.Proofs.Descriptor.FirstProblem
import Listfile.Proofs.Descriptor.Spelling

set_option autoImplicit false

/-! Optional fields that are there but say nothing. A blank field is as good as none, but for the base file of an
output: an empty base file is the directory of the project, and counts as a source. -/

namespace Listfile

namespace Schema

/-- The value of a shape that says as little as no value. -/
def Shape.blank : Shape → Json
  | .text | .scalar => .string ""
  | .texts | .scalars => .array []
  | .object => .object []

/-- What two objects have under a tag, if they have the same under all others. -/
structure FieldChanges (tag : String) (before after : Option Json) (members others : List (String × Json)) : Prop where
  before : Json.member? members tag = before
  after : Json.member? others tag = after
  elsewhere : ∀ other, other ≠ tag → Json.member? members other = Json.member? others other

theorem fieldChanges_insert {before after : List (String × Json)} {tag : String}
    (absent : tag ∉ (before ++ after).map Prod.fst) (value : Json) :
    FieldChanges tag none (some value) (before ++ after) (before ++ (tag, value) :: after) where
  before := (lookup_eq_none_iff_not_key _ _).2 absent
  after := by
    rw [List.map_append, List.mem_append, not_or, ← lookup_eq_none_iff_not_key] at absent
    rw [Json.member?, List.lookup_append, absent.1, Option.none_or, List.lookup_cons_self]
  elsewhere := fun _other apart => (member?_insert_of_ne apart before after value).symm

theorem fieldChanges_replace {before : List (String × Json)} {tag : String} (absent : tag ∉ before.map Prod.fst)
    (after : List (String × Json)) (value other : Json) :
    FieldChanges tag (some value) (some other) (before ++ (tag, value) :: after) (before ++ (tag, other) :: after) := by
  have found : ∀ any : Json, Json.member? (before ++ (tag, any) :: after) tag = some any := by
    intro any
    rw [Json.member?, List.lookup_append, (lookup_eq_none_iff_not_key _ _).2 absent, Option.none_or,
      List.lookup_cons_self]
  refine ⟨found value, found other, fun key apart => ?_⟩
  rw [member?_insert_of_ne apart, member?_insert_of_ne apart]

/-- Objects of which one leaves an optional field out, where the other leaves it blank. -/
structure Blanks (rules : List Rule) (rule : Rule) (members others : List (String × Json)) : Prop where
  known : rule ∈ rules
  isOptional : rule.presence = .optional
  changes : FieldChanges rule.tag none (some rule.shape.blank) members others

/-- Descriptors of which one leaves a field blank, of the descriptor or of an entry. The base file is left out here. -/
inductive AddsBlank : Json → Json → Prop where
  | top {rule : Rule} {members others : List (String × Json)} :
      Blanks topRules rule members others → AddsBlank (.object members) (.object others)
  | entry {tag : String} {rules : List Rule} {rule : Rule} {name : String}
      {earlier later entry blanked members others : List (String × Json)} :
      (tag, rules) ∈ entryRules → rule.tag ≠ Tag.baseFile → Blanks rules rule entry blanked →
        FieldChanges tag (some (.object (earlier ++ (name, .object entry) :: later)))
          (some (.object (earlier ++ (name, .object blanked) :: later))) members others →
        AddsBlank (.object members) (.object others)

namespace Blanks

variable {rules : List Rule} {rule : Rule} {members others : List (String × Json)} {parent : Option String}
  {tag : String} (distinct : (rules.map Rule.tag).Nodup) (blanks : Blanks rules rule members others)

include distinct blanks

theorem eq_of_tag {other : Rule} (known : other ∈ rules) (same : other.tag = rule.tag) : other = rule :=
  List.inj_on_of_nodup_map distinct known blanks.known same

theorem member?_eq {tags : List String}
    (needed : ∀ tag ∈ tags, ∃ other ∈ rules, other.tag = tag ∧ other.presence ≠ .optional) :
    ∀ tag ∈ tags, Json.member? members tag = Json.member? others tag := by
  intro tag member
  obtain ⟨other, known, sameTag, presence⟩ := needed tag member
  refine blanks.changes.elsewhere tag fun same => presence ?_
  exact (congrArg Rule.presence (blanks.eq_of_tag distinct known (sameTag.trans same))).trans blanks.isOptional

theorem optional_cases {shape : Shape} (known : ⟨tag, shape, .optional⟩ ∈ rules) :
    Fields.optional ⟨members, none⟩ tag = Fields.optional ⟨others, none⟩ tag ∨
      Json.member? members tag = none ∧ Json.member? others tag = some shape.blank := by
  by_cases same : tag = rule.tag
  · have isRule := blanks.eq_of_tag distinct known same
    have changes := blanks.changes
    rw [← isRule] at changes
    exact Or.inr ⟨changes.before, changes.after⟩
  · exact Or.inl (Fields.optional_congr (blanks.changes.elsewhere tag same))

theorem optionalTexts_eq (tag : String) (known : ⟨tag, .texts, .optional⟩ ∈ rules) :
    Fields.optionalTexts ⟨members, parent⟩ tag = Fields.optionalTexts ⟨others, parent⟩ tag := by
  rcases blanks.optional_cases distinct known with same | ⟨absent, blank⟩
  · exact Fields.optionalTexts_congr same
  · simp only [Fields.optionalTexts, Fields.optional, Fields.get?, absent, blank]
    rfl

theorem optionalObject_eq (known : ⟨tag, .object, .optional⟩ ∈ rules) :
    Fields.optionalObject ⟨members, parent⟩ tag = Fields.optionalObject ⟨others, parent⟩ tag := by
  rcases blanks.optional_cases distinct known with same | ⟨absent, blank⟩
  · exact Fields.optionalObject_congr same
  · simp only [Fields.optionalObject, Fields.optional, Fields.get?, absent, blank]
    rfl

/-- A standard that is blank is read, but it is the standard that is taken if none is read. -/
theorem declaredStandard_eq (known : ⟨tag, .scalar, .optional⟩ ∈ rules) :
    declaredStandard ⟨members, parent⟩ tag = declaredStandard ⟨others, parent⟩ tag := by
  unfold declaredStandard
  rcases blanks.optional_cases distinct known with same | ⟨absent, blank⟩
  · rw [Fields.optionalScalar_congr same]
  · simp only [Fields.optionalScalar, Fields.optional, Fields.get?, absent, blank]
    rfl

theorem readDefaultTarget_eq (known : ⟨Tag.defaultTarget, .text, .optional⟩ ∈ rules) (targets : List BuildTarget) :
    readDefaultTarget ⟨members, none⟩ targets = readDefaultTarget ⟨others, none⟩ targets := by
  rcases blanks.optional_cases distinct known with same | ⟨absent, blank⟩
  · unfold readDefaultTarget
    rw [Fields.optionalText_congr same]
  · simp only [readDefaultTarget, Fields.optionalText, Fields.optional, Fields.get?, absent, blank]
    rfl

end Blanks

end Schema

open Schema

variable {members others : List (String × Json)} {parent : Option String} {rule : Rule}

def neededTags : List String :=
  [Tag.minimumVersion, Tag.projectName, Tag.allowedCppStandards, Tag.allowedCStandards, Tag.targets, Tag.output]

theorem Schema.Blanks.readAlike (tree : FileTree) (root : Path) (blanks : Blanks topRules rule members others) :
    ReadAlike tree root ⟨members, none⟩ ⟨others, none⟩ := by
  have distinct : (topRules.map Rule.tag).Nodup := by decide
  have needed : ∀ tag ∈ neededTags, ∃ other ∈ topRules, other.tag = tag ∧ other.presence ≠ .optional := by decide
  have same := blanks.member?_eq distinct needed
  have scalarRules : ∀ tag ∈ [Tag.defaultCppStandard, Tag.defaultCStandard],
      (⟨tag, .scalar, .optional⟩ : Rule) ∈ topRules := by decide
  have allowedNeeded : [Tag.allowedCppStandards, Tag.allowedCStandards] ⊆ neededTags := by decide
  exact {
    info := SeesOnly.readInfo root (by decide) (by decide) members others same
    standards := readBothStandards_congr
      (fun tag member => blanks.declaredStandard_eq distinct (scalarRules tag member))
      fun tag member => same tag (allowedNeeded member)
    targets := SeesOnly.readTargets (by decide) members others same
    defaultTarget := blanks.readDefaultTarget_eq distinct (by decide)
    outputs := readOutputs_eq_of_member? tree root (same Tag.output (by decide))
    libraries := readLibraries_eq_of_optionalObject tree root (blanks.optionalObject_eq distinct (by decide))
    edges := readLinkEdges_eq_of_optionalObject (blanks.optionalObject_eq distinct (by decide)) }

/-- What is read of an output when its kind and its base file are known. -/
def readOutputBehind (tree : FileTree) (root : Path) (name : String) (fields : Fields) (linkage : Option Linkage)
    (base : List String) : Attempt Problem OutputUnit := do
  let sourceDirectories ← fields.requireTexts Tag.sourceDirectories (some Reason.sourceDirectories)
  let sourceFiles := tree.findFiles root root sourceDirectories sourceSuffixes
  Attempt.note (tree.searchLog root sourceDirectories "files" sourceFiles)
  let headerDirectories ← fields.requireTexts Tag.headerDirectories (some Reason.headerDirectories)
  let headerFiles := tree.findFiles root root headerDirectories headerSuffixes
  Attempt.note (tree.searchLog root headerDirectories "files" headerFiles)
  let sources := orderedUnion (orderedUnion base sourceFiles) headerFiles
  if sources.isEmpty then
    Attempt.fail (fields.empty Tag.sourceDirectories Reason.noSources)
  else
    let searched ← fields.requireTexts Tag.searchedIncludeDirectories (some Reason.includeDirectories)
    let found := tree.findDirectories root root searched
    Attempt.note (tree.searchLog root searched "directories" found)
    let literal ← fields.optionalTexts Tag.includeDirectories
    let kind ← readOutputDirectories fields linkage
    let unit : OutputUnit := ⟨name, kind, sources, orderedUnion found (literal.map normalizeSeparators)⟩
    Attempt.note [unit.summary]
    return unit

theorem readOutputFields_eq (tree : FileTree) (root : Path) (name : String) (fields : Fields) :
    readOutputFields tree root name fields = (do
      let linkage ← readOutputKindWord fields
      let baseFile ← fields.optionalText Tag.baseFile
      readOutputBehind tree root name fields linkage (baseSource root baseFile)) := rfl

def neededOutputTags : List String :=
  [Tag.kind, Tag.sourceDirectories, Tag.headerDirectories, Tag.searchedIncludeDirectories, Tag.executableDirectory,
    Tag.archiveDirectory, Tag.libraryDirectory]

theorem readOutputBehind_congr (tree : FileTree) (root : Path) (name : String)
    (same : ∀ tag ∈ neededOutputTags, Json.member? members tag = Json.member? others tag)
    (literal : Fields.optionalTexts ⟨members, parent⟩ Tag.includeDirectories =
      Fields.optionalTexts ⟨others, parent⟩ Tag.includeDirectories) (linkage : Option Linkage) (base : List String) :
    readOutputBehind tree root name ⟨members, parent⟩ linkage base =
      readOutputBehind tree root name ⟨others, parent⟩ linkage base := by
  have agree : Agree (executableRules ++ builtLibraryRules) members others := by
    have known : ∀ other ∈ executableRules ++ builtLibraryRules, other.tag ∈ neededOutputTags := by decide
    exact fun other member => Rule.view_eq_of_member? (same _ (known other member))
  unfold readOutputBehind
  simp only [literal, readOutputDirectories_congr agree,
    Fields.requireTexts_congr (same Tag.sourceDirectories (by decide)),
    Fields.requireTexts_congr (same Tag.headerDirectories (by decide)),
    Fields.requireTexts_congr (same Tag.searchedIncludeDirectories (by decide))]
  rfl

theorem readOutputFields_eq_of_blanks (tree : FileTree) (root : Path) (name : String) (apart : rule.tag ≠ Tag.baseFile)
    (blanks : Blanks (outputRules ++ executableRules ++ builtLibraryRules) rule members others) :
    readOutputFields tree root name ⟨members, parent⟩ = readOutputFields tree root name ⟨others, parent⟩ := by
  have distinct : ((outputRules ++ executableRules ++ builtLibraryRules).map Rule.tag).Nodup := by decide
  have needed : ∀ tag ∈ neededOutputTags, ∃ other ∈ outputRules ++ executableRules ++ builtLibraryRules,
      other.tag = tag ∧ other.presence ≠ .optional := by decide
  have same := blanks.member?_eq distinct needed
  have baseFile := Fields.optional_congr (blanks.changes.elsewhere Tag.baseFile apart.symm)
  simp only [readOutputFields_eq, readOutputKindWord_eq_of_member? (same Tag.kind (by decide)),
    Fields.optionalText_congr baseFile,
    readOutputBehind_congr tree root name same (blanks.optionalTexts_eq distinct Tag.includeDirectories (by decide))]

theorem readLibraryFields_eq_of_blanks (tree : FileTree) (root : Path) (name : String)
    (blanks : Blanks libraryRules rule members others) :
    readLibraryFields tree root name ⟨members, parent⟩ = readLibraryFields tree root name ⟨others, parent⟩ := by
  have distinct : (libraryRules.map Rule.tag).Nodup := by decide
  have needed : ∀ tag ∈ [Tag.kind, Tag.rootDirectory, Tag.libraryFiles, Tag.searchedIncludeDirectories],
      ∃ other ∈ libraryRules, other.tag = tag ∧ other.presence ≠ .optional := by decide
  have same := blanks.member?_eq distinct needed
  have linkage : readLinkage ⟨members, parent⟩ = readLinkage ⟨others, parent⟩ := by
    unfold readLinkage
    rw [Fields.requireText_congr (same Tag.kind (by decide))]
    rfl
  unfold readLibraryFields
  simp only [linkage, Fields.requireText_congr (same Tag.rootDirectory (by decide)),
    Fields.requireTexts_congr (same Tag.libraryFiles (by decide)),
    Fields.requireTexts_congr (same Tag.searchedIncludeDirectories (by decide)),
    blanks.optionalTexts_eq distinct Tag.includeDirectories (by decide),
    blanks.optionalTexts_eq distinct Tag.headerFiles (by decide)]
  rfl

theorem plainAgree_of_map {tag : String} (isMap : tag ∈ [Tag.output, Tag.importedLibraries])
    (elsewhere : ∀ other, other ≠ tag → Json.member? members other = Json.member? others other) :
    PlainAgree members others := by
  have entriesKnown : ∀ map ∈ [Tag.output, Tag.importedLibraries], entryRules.lookup map ≠ none := by decide
  intro rule _known noEntries
  exact Rule.view_eq_of_member? (elsewhere rule.tag fun same => entriesKnown tag isMap (same ▸ noEntries))

theorem readAlike_of_map (tree : FileTree) (root : Path) {tag : String}
    (isMap : tag ∈ [Tag.output, Tag.importedLibraries])
    (elsewhere : ∀ other, other ≠ tag → Json.member? members other = Json.member? others other)
    (outputs : readOutputs tree root ⟨members, none⟩ = readOutputs tree root ⟨others, none⟩)
    (libraries : readLibraries tree root ⟨members, none⟩ = readLibraries tree root ⟨others, none⟩) :
    ReadAlike tree root ⟨members, none⟩ ⟨others, none⟩ := by
  have noTargets : ∀ map ∈ [Tag.output, Tag.importedLibraries], Tag.targets ≠ map := by decide
  have sameTargets := elsewhere Tag.targets (noTargets tag isMap)
  exact (plainAgree_of_map isMap elsewhere).readAlike (readTargets_congr (sameTargets ▸ .same _)) outputs libraries

variable {earlier later : List (String × Json)} {name : String} {entry changed : Json}

theorem readAlike_of_output (tree : FileTree) (root : Path)
    (changes : FieldChanges Tag.output (some (.object (earlier ++ (name, entry) :: later)))
      (some (.object (earlier ++ (name, changed) :: later))) members others)
    (same : readOutput tree root name entry = readOutput tree root name changed) :
    ReadAlike tree root ⟨members, none⟩ ⟨others, none⟩ := by
  refine readAlike_of_map tree root (by decide) changes.elsewhere ?_ ?_
  · rw [readOutputs_of_present tree root changes.before (by simp),
      readOutputs_of_present tree root changes.after (by simp)]
    simp only [List.mapM_append, List.mapM_cons, same]
  · have libraries := Fields.optional_congr (changes.elsewhere Tag.importedLibraries (by decide))
    exact readLibraries_eq_of_optionalObject tree root (Fields.optionalObject_congr libraries)

theorem readAlike_of_library (tree : FileTree) (root : Path)
    (changes : FieldChanges Tag.importedLibraries (some (.object (earlier ++ (name, entry) :: later)))
      (some (.object (earlier ++ (name, changed) :: later))) members others)
    (same : readLibrary tree root name entry = readLibrary tree root name changed) :
    ReadAlike tree root ⟨members, none⟩ ⟨others, none⟩ := by
  refine readAlike_of_map tree root (by decide) changes.elsewhere ?_ ?_
  · exact readOutputs_eq_of_member? tree root (changes.elsewhere Tag.output (by decide))
  · rw [readLibraries_of_present tree root changes.before, readLibraries_of_present tree root changes.after]
    simp only [List.mapM_append, List.mapM_cons, same]

/-- A blank field is read as if it was not there. -/
theorem Schema.AddsBlank.resolveDescriptor_eq {descriptor other : Json} (blank : AddsBlank descriptor other)
    (tree : FileTree) (root : Path) : resolveDescriptor tree root descriptor = resolveDescriptor tree root other := by
  cases blank with
  | top blanks => exact (blanks.readAlike tree root).resolveDescriptor_eq
  | @entry tag rules rule name earlier later entry blanked members others known apart blanks changes =>
      refine ReadAlike.resolveDescriptor_eq ?_
      simp only [entryRules, List.mem_cons, List.not_mem_nil, or_false, Prod.mk.injEq] at known
      rcases known with ⟨_isTarget, isRules⟩ | ⟨isOutput, isRules⟩ | ⟨isLibrary, isRules⟩
      · cases isRules
        have allNeeded : ∀ rule ∈ targetRules, rule.presence ≠ .optional := by decide
        exact absurd blanks.isOptional (allNeeded rule blanks.known)
      · cases isRules
        subst isOutput
        exact readAlike_of_output tree root changes (readOutputFields_eq_of_blanks tree root name apart blanks)
      · cases isRules
        subst isLibrary
        exact readAlike_of_library tree root changes (readLibraryFields_eq_of_blanks tree root name blanks)

end Listfile
