import Listfile.Descriptor.Resolution
import Listfile.Proofs.Descriptor.Rules

set_option autoImplicit false

/-! Resolution depends on a descriptor only through the fields of the schema. Objects agree if they show the same values
under the rules for their fields, and a null shows nothing where a field is optional. The readers of objects that
agree read the same, log the same, and fail with the same problem. -/

namespace Listfile

namespace Schema

def Rule.view (rule : Rule) (members : List (String × Json)) : Option Json :=
  match rule.presence with
  | .optional => Fields.optional ⟨members, none⟩ rule.tag
  | .required | .filled => Json.member? members rule.tag

theorem Rule.view_eq_of_member? {rule : Rule} {left right : List (String × Json)}
    (same : Json.member? left rule.tag = Json.member? right rule.tag) : rule.view left = rule.view right := by
  unfold view
  cases rule.presence with
  | optional => simp only [Fields.optional, Fields.get?, same]
  | required => exact same
  | filled => exact same

def Agree (rules : List Rule) (left right : List (String × Json)) : Prop :=
  ∀ rule ∈ rules, rule.view left = rule.view right

/-- The maps whose entries are objects, with the rules for the fields of the entries. -/
def entryRules : List (String × List Rule) :=
  [(Tag.targets, targetRules), (Tag.output, outputRules ++ executableRules ++ builtLibraryRules),
    (Tag.importedLibraries, libraryRules)]

inductive AlikeEntry (rules : List Rule) : String × Json → String × Json → Prop where
  | same (entry : String × Json) : AlikeEntry rules entry entry
  | objects (name : String) {left right : List (String × Json)} :
      Agree rules left right → AlikeEntry rules (name, .object left) (name, .object right)

/-- The values of one field, which are equal or, if there are rules for entries, maps with alike entries. -/
inductive AlikeField : Option (List Rule) → Option Json → Option Json → Prop where
  | same {rules : Option (List Rule)} (value : Option Json) : AlikeField rules value value
  | maps {rules : List Rule} {left right : List (String × Json)} :
      List.Forall₂ (AlikeEntry rules) left right → AlikeField (some rules) (some (.object left)) (some (.object right))

def TopAgree (left right : List (String × Json)) : Prop :=
  ∀ rule ∈ topRules, AlikeField (entryRules.lookup rule.tag) (rule.view left) (rule.view right)

def PlainAgree (left right : List (String × Json)) : Prop :=
  ∀ rule ∈ topRules, entryRules.lookup rule.tag = none → rule.view left = rule.view right

theorem TopAgree.plain {left right : List (String × Json)} (agree : TopAgree left right) : PlainAgree left right := by
  intro rule known noEntries
  have alike := agree rule known
  rw [noEntries] at alike
  generalize rule.view left = shown at alike ⊢
  generalize rule.view right = shownOther at alike ⊢
  cases alike
  rfl

end Schema

open Schema

variable {left right : List (String × Json)} {parent : Option String} {tag : String} {reason : Option String}

namespace Fields

theorem requireText_congr (same : Json.member? left tag = Json.member? right tag) :
    requireText ⟨left, parent⟩ tag reason = requireText ⟨right, parent⟩ tag reason := by
  simp only [requireText, require, get?, same]
  rfl

theorem requireTexts_congr (same : Json.member? left tag = Json.member? right tag) :
    requireTexts ⟨left, parent⟩ tag reason = requireTexts ⟨right, parent⟩ tag reason := by
  simp only [requireTexts, require, get?, same]
  rfl

theorem requireScalars_congr (same : Json.member? left tag = Json.member? right tag) :
    requireScalars ⟨left, parent⟩ tag reason = requireScalars ⟨right, parent⟩ tag reason := by
  simp only [requireScalars, require, get?, same]
  rfl

theorem requireObject_congr (same : Json.member? left tag = Json.member? right tag) :
    requireObject ⟨left, parent⟩ tag reason = requireObject ⟨right, parent⟩ tag reason := by
  simp only [requireObject, require, get?, same]
  rfl

theorem optional_parent (members : List (String × Json)) (parent : Option String) (tag : String) :
    optional ⟨members, parent⟩ tag = optional ⟨members, none⟩ tag := rfl

theorem optionalText_congr (same : optional ⟨left, none⟩ tag = optional ⟨right, none⟩ tag) :
    optionalText ⟨left, parent⟩ tag = optionalText ⟨right, parent⟩ tag := by
  simp only [optionalText, optional_parent, same]
  rfl

theorem optionalScalar_congr (same : optional ⟨left, none⟩ tag = optional ⟨right, none⟩ tag) :
    optionalScalar ⟨left, parent⟩ tag = optionalScalar ⟨right, parent⟩ tag := by
  simp only [optionalScalar, optional_parent, same]
  rfl

theorem optionalTexts_congr (same : optional ⟨left, none⟩ tag = optional ⟨right, none⟩ tag) :
    optionalTexts ⟨left, parent⟩ tag = optionalTexts ⟨right, parent⟩ tag := by
  simp only [optionalTexts, optional_parent, same]
  rfl

theorem optionalObject_congr (same : optional ⟨left, none⟩ tag = optional ⟨right, none⟩ tag) :
    optionalObject ⟨left, parent⟩ tag = optionalObject ⟨right, parent⟩ tag := by
  simp only [optionalObject, optional_parent, same]
  rfl

theorem requireObject_alike {rules : List Rule}
    (alike : AlikeField (some rules) (Json.member? left tag) (Json.member? right tag)) :
    requireObject ⟨left, parent⟩ tag reason = requireObject ⟨right, parent⟩ tag reason ∨
      ∃ entries others, requireObject ⟨left, parent⟩ tag reason = .ok entries ∧
        requireObject ⟨right, parent⟩ tag reason = .ok others ∧ List.Forall₂ (AlikeEntry rules) entries others := by
  generalize inLeft : Json.member? left tag = shown at alike
  generalize inRight : Json.member? right tag = shownOther at alike
  cases alike with
  | same => exact Or.inl (requireObject_congr (inLeft.trans inRight.symm))
  | maps related =>
      exact Or.inr ⟨_, _, (requireObject_eq_ok_iff _ _ _ _).2 inLeft, (requireObject_eq_ok_iff _ _ _ _).2 inRight,
        related⟩

theorem optionalObject_alike {rules : List Rule}
    (alike : AlikeField (some rules) (optional ⟨left, none⟩ tag) (optional ⟨right, none⟩ tag)) :
    optionalObject ⟨left, parent⟩ tag = optionalObject ⟨right, parent⟩ tag ∨
      ∃ entries others, optionalObject ⟨left, parent⟩ tag = .ok entries ∧
        optionalObject ⟨right, parent⟩ tag = .ok others ∧ List.Forall₂ (AlikeEntry rules) entries others := by
  generalize inLeft : optional ⟨left, none⟩ tag = shown at alike
  generalize inRight : optional ⟨right, none⟩ tag = shownOther at alike
  cases alike with
  | same => exact Or.inl (optionalObject_congr (inLeft.trans inRight.symm))
  | maps related =>
      exact Or.inr ⟨_, _, (optionalObject_eq_ok_iff _ _ _).2 (Or.inr inLeft),
        (optionalObject_eq_ok_iff _ _ _).2 (Or.inr inRight), related⟩

end Fields

theorem isEmpty_eq_of_forall₂ {α β : Type} {relation : α → β → Prop} {items : List α} {others : List β}
    (related : List.Forall₂ relation items others) : items.isEmpty = others.isEmpty := by
  cases related <;> rfl

theorem readTarget_alike {entry other : String × Json} (alike : AlikeEntry targetRules entry other) :
    readTarget entry.1 entry.2 = readTarget other.1 other.2 := by
  cases alike with
  | same => rfl
  | objects name agree =>
      simp only [readTarget, Fields.ofEntry, ok_bind]
      rw [Fields.requireTexts_congr (agree ⟨Tag.cppFlags, .texts, .required⟩ (by decide)),
        Fields.requireTexts_congr (agree ⟨Tag.cFlags, .texts, .required⟩ (by decide))]

theorem readTargets_congr
    (alike : AlikeField (some targetRules) (Json.member? left Tag.targets) (Json.member? right Tag.targets)) :
    readTargets ⟨left, none⟩ = readTargets ⟨right, none⟩ := by
  unfold readTargets
  rcases Fields.requireObject_alike alike with same | ⟨entries, others, read, readToo, related⟩
  · rw [same]
    rfl
  · rw [read, readToo, ok_bind, ok_bind, isEmpty_eq_of_forall₂ related,
      mapM_eq_of_forall₂ related fun _entry _other => readTarget_alike]
    rfl

theorem readOutputKindWord_congr (agree : Agree outputRules left right) :
    readOutputKindWord ⟨left, parent⟩ = readOutputKindWord ⟨right, parent⟩ := by
  unfold readOutputKindWord
  rw [Fields.requireText_congr (agree ⟨Tag.kind, .text, .required⟩ (by decide))]
  rfl

theorem readOutputKindWord_eq_of_member? (same : Json.member? left Tag.kind = Json.member? right Tag.kind) :
    readOutputKindWord ⟨left, parent⟩ = readOutputKindWord ⟨right, parent⟩ := by
  unfold readOutputKindWord
  rw [Fields.requireText_congr same]
  rfl

theorem readOutputDirectories_congr (agree : Agree (executableRules ++ builtLibraryRules) left right)
    (linkage : Option Linkage) :
    readOutputDirectories ⟨left, parent⟩ linkage = readOutputDirectories ⟨right, parent⟩ linkage := by
  cases linkage with
  | none =>
      unfold readOutputDirectories
      rw [Fields.requireText_congr (agree ⟨Tag.executableDirectory, .text, .required⟩ (by decide))]
  | some linkage =>
      unfold readOutputDirectories
      rw [Fields.requireText_congr (agree ⟨Tag.archiveDirectory, .text, .required⟩ (by decide)),
        Fields.requireText_congr (agree ⟨Tag.libraryDirectory, .text, .required⟩ (by decide))]

theorem readOutputFields_congr (tree : FileTree) (root : Path) (name : String)
    (agree : Agree (outputRules ++ executableRules ++ builtLibraryRules) left right) :
    readOutputFields tree root name ⟨left, parent⟩ = readOutputFields tree root name ⟨right, parent⟩ := by
  have agreeCommon : Agree outputRules left right := fun rule known => agree rule (by simp [known])
  have agreeSpecial : Agree (executableRules ++ builtLibraryRules) left right :=
    fun rule known => agree rule (by rw [List.append_assoc]; exact List.mem_append_right _ known)
  unfold readOutputFields
  simp only [readOutputKindWord_congr agreeCommon, readOutputDirectories_congr agreeSpecial,
    Fields.optionalText_congr (agreeCommon ⟨Tag.baseFile, .text, .optional⟩ (by decide)),
    Fields.requireTexts_congr (agreeCommon ⟨Tag.sourceDirectories, .texts, .required⟩ (by decide)),
    Fields.requireTexts_congr (agreeCommon ⟨Tag.headerDirectories, .texts, .required⟩ (by decide)),
    Fields.requireTexts_congr (agreeCommon ⟨Tag.searchedIncludeDirectories, .texts, .required⟩ (by decide)),
    Fields.optionalTexts_congr (agreeCommon ⟨Tag.includeDirectories, .texts, .optional⟩ (by decide))]
  rfl

theorem readOutput_alike (tree : FileTree) (root : Path) {entry other : String × Json}
    (alike : AlikeEntry (outputRules ++ executableRules ++ builtLibraryRules) entry other) :
    readOutput tree root entry.1 entry.2 = readOutput tree root other.1 other.2 := by
  cases alike with
  | same => rfl
  | objects name agree =>
      simp only [readOutput, Fields.ofEntry, Attempt.lift_ok_bind]
      exact readOutputFields_congr tree root name agree

theorem readOutputs_congr (tree : FileTree) (root : Path) (agree : TopAgree left right) :
    readOutputs tree root ⟨left, none⟩ = readOutputs tree root ⟨right, none⟩ := by
  have alike := agree ⟨Tag.output, .object, .filled⟩ (by decide)
  unfold readOutputs
  rcases Fields.requireObject_alike alike with same | ⟨entries, others, read, readToo, related⟩
  · rw [same]
    rfl
  · rw [read, readToo, Attempt.lift_ok_bind, Attempt.lift_ok_bind, isEmpty_eq_of_forall₂ related,
      mapM_eq_of_forall₂ related fun _entry _other => readOutput_alike tree root]
    rfl

theorem readOutputs_eq_of_member? (tree : FileTree) (root : Path)
    (same : Json.member? left Tag.output = Json.member? right Tag.output) :
    readOutputs tree root ⟨left, none⟩ = readOutputs tree root ⟨right, none⟩ := by
  unfold readOutputs
  rw [Fields.requireObject_congr same]
  rfl

theorem readOutputs_of_present (tree : FileTree) (root : Path) {entries : List (String × Json)}
    (present : Json.member? left Tag.output = some (.object entries)) (filled : entries ≠ []) :
    readOutputs tree root ⟨left, none⟩ = entries.mapM fun entry => readOutput tree root entry.1 entry.2 := by
  have read : Fields.requireObject ⟨left, none⟩ Tag.output none = .ok entries :=
    (Fields.requireObject_eq_ok_iff _ _ _ _).2 present
  rw [readOutputs, read, Attempt.lift_ok_bind, if_neg (mt List.isEmpty_iff.1 filled)]

theorem readLibraryFields_congr (tree : FileTree) (root : Path) (name : String)
    (agree : Agree libraryRules left right) :
    readLibraryFields tree root name ⟨left, parent⟩ = readLibraryFields tree root name ⟨right, parent⟩ := by
  have linkage : readLinkage ⟨left, parent⟩ = readLinkage ⟨right, parent⟩ := by
    unfold readLinkage
    rw [Fields.requireText_congr (agree ⟨Tag.kind, .text, .required⟩ (by decide))]
    rfl
  unfold readLibraryFields
  simp only [linkage, Fields.requireText_congr (agree ⟨Tag.rootDirectory, .text, .required⟩ (by decide)),
    Fields.requireTexts_congr (agree ⟨Tag.libraryFiles, .texts, .filled⟩ (by decide)),
    Fields.requireTexts_congr (agree ⟨Tag.searchedIncludeDirectories, .texts, .required⟩ (by decide)),
    Fields.optionalTexts_congr (agree ⟨Tag.includeDirectories, .texts, .optional⟩ (by decide)),
    Fields.optionalTexts_congr (agree ⟨Tag.headerFiles, .texts, .optional⟩ (by decide))]
  rfl

theorem readLibrary_alike (tree : FileTree) (root : Path) {entry other : String × Json}
    (alike : AlikeEntry libraryRules entry other) :
    readLibrary tree root entry.1 entry.2 = readLibrary tree root other.1 other.2 := by
  cases alike with
  | same => rfl
  | objects name agree =>
      simp only [readLibrary, Fields.ofEntry, Attempt.lift_ok_bind]
      exact readLibraryFields_congr tree root name agree

theorem readLibraries_congr (tree : FileTree) (root : Path) (agree : TopAgree left right) :
    readLibraries tree root ⟨left, none⟩ = readLibraries tree root ⟨right, none⟩ := by
  have alike := agree ⟨Tag.importedLibraries, .object, .optional⟩ (by decide)
  unfold readLibraries
  rcases Fields.optionalObject_alike alike with same | ⟨entries, others, read, readToo, related⟩
  · rw [same]
  · rw [read, readToo, Attempt.lift_ok_bind, Attempt.lift_ok_bind,
      mapM_eq_of_forall₂ related fun _entry _other => readLibrary_alike tree root]

theorem readLibraries_eq_of_optionalObject (tree : FileTree) (root : Path)
    (same : Fields.optionalObject ⟨left, none⟩ Tag.importedLibraries =
      Fields.optionalObject ⟨right, none⟩ Tag.importedLibraries) :
    readLibraries tree root ⟨left, none⟩ = readLibraries tree root ⟨right, none⟩ := by
  unfold readLibraries
  rw [same]

theorem readLibraries_of_present (tree : FileTree) (root : Path) {entries : List (String × Json)}
    (present : Json.member? left Tag.importedLibraries = some (.object entries)) :
    readLibraries tree root ⟨left, none⟩ = entries.mapM fun entry => readLibrary tree root entry.1 entry.2 := by
  have read : Fields.optionalObject ⟨left, none⟩ Tag.importedLibraries = .ok entries :=
    (Fields.optionalObject_eq_ok_iff _ _ _).2 (Or.inr ((Fields.optional_eq_some_iff _ _ _).2 ⟨present, nofun⟩))
  rw [readLibraries, read, Attempt.lift_ok_bind]

/-! ### Descriptors -/

theorem readInfo_congr (root : Path) (agree : PlainAgree left right) :
    readInfo root ⟨left, none⟩ = readInfo root ⟨right, none⟩ := by
  unfold readInfo
  rw [Fields.requireText_congr (agree ⟨Tag.minimumVersion, .text, .required⟩ (by decide) rfl),
    Fields.requireText_congr (agree ⟨Tag.projectName, .text, .required⟩ (by decide) rfl)]

theorem readStandards_congr (same : Json.member? left tag = Json.member? right tag) (declared : String) :
    readStandards ⟨left, none⟩ tag declared = readStandards ⟨right, none⟩ tag declared := by
  unfold readStandards
  rw [Fields.requireScalars_congr same]
  rfl

theorem readDefaultTarget_congr (agree : PlainAgree left right) (targets : List BuildTarget) :
    readDefaultTarget ⟨left, none⟩ targets = readDefaultTarget ⟨right, none⟩ targets := by
  unfold readDefaultTarget
  rw [Fields.optionalText_congr (agree ⟨Tag.defaultTarget, .text, .optional⟩ (by decide) rfl)]

theorem readLinkEdges_eq_of_optionalObject
    (same : Fields.optionalObject ⟨left, none⟩ Tag.linkLibraries = Fields.optionalObject ⟨right, none⟩ Tag.linkLibraries)
    (outputs : List OutputUnit) (libraries : List ImportedLibrary) :
    readLinkEdges ⟨left, none⟩ outputs libraries = readLinkEdges ⟨right, none⟩ outputs libraries := by
  unfold readLinkEdges
  rw [same]

theorem readLinkEdges_congr (agree : PlainAgree left right) (outputs : List OutputUnit)
    (libraries : List ImportedLibrary) :
    readLinkEdges ⟨left, none⟩ outputs libraries = readLinkEdges ⟨right, none⟩ outputs libraries := by
  have same := agree ⟨Tag.linkLibraries, .object, .optional⟩ (by decide) rfl
  exact readLinkEdges_eq_of_optionalObject (Fields.optionalObject_congr same) outputs libraries

def declaredStandard (top : Fields) (tag : String) : Except Problem String :=
  (top.optionalScalar tag).map (·.getD "")

def readBothStandards (top : Fields) : Attempt Problem (LanguageStandards × LanguageStandards) := do
  let cppDefault ← declaredStandard top Tag.defaultCppStandard
  let cDefault ← declaredStandard top Tag.defaultCStandard
  let cppStandards ← readStandards top Tag.allowedCppStandards cppDefault
  let cStandards ← readStandards top Tag.allowedCStandards cDefault
  return (cppStandards, cStandards)

theorem readBothStandards_congr
    (declared : ∀ tag ∈ [Tag.defaultCppStandard, Tag.defaultCStandard],
      declaredStandard ⟨left, none⟩ tag = declaredStandard ⟨right, none⟩ tag)
    (allowed : ∀ tag ∈ [Tag.allowedCppStandards, Tag.allowedCStandards],
      Json.member? left tag = Json.member? right tag) :
    readBothStandards ⟨left, none⟩ = readBothStandards ⟨right, none⟩ := by
  rw [List.forall_mem_cons, List.forall_mem_singleton] at declared allowed
  simp only [readBothStandards, declared.1, declared.2, readStandards_congr allowed.1, readStandards_congr allowed.2]

/-- Descriptors that every reader of their fields reads alike. -/
structure ReadAlike (tree : FileTree) (root : Path) (left right : Fields) : Prop where
  info : readInfo root left = readInfo root right
  standards : readBothStandards left = readBothStandards right
  targets : readTargets left = readTargets right
  defaultTarget : ∀ targets, readDefaultTarget left targets = readDefaultTarget right targets
  outputs : readOutputs tree root left = readOutputs tree root right
  libraries : readLibraries tree root left = readLibraries tree root right
  edges : ∀ outputs libraries, readLinkEdges left outputs libraries = readLinkEdges right outputs libraries

/-- A descriptor shows nothing else to its resolution, and nothing else is logged. -/
theorem ReadAlike.resolveDescriptor_eq {tree : FileTree} {root : Path}
    (alike : ReadAlike tree root ⟨left, none⟩ ⟨right, none⟩) :
    resolveDescriptor tree root (.object left) = resolveDescriptor tree root (.object right) := by
  have opened : ∀ members : List (String × Json), resolveDescriptor tree root (.object members) = do
      let info ← readInfo root ⟨members, none⟩
      Attempt.note [.debug ("resolving project \"" ++ info.name ++ "\" in " ++ root.display)]
      let standards ← readBothStandards ⟨members, none⟩
      let targets ← readTargets ⟨members, none⟩
      let defaultTarget ← readDefaultTarget ⟨members, none⟩ targets
      let outputs ← readOutputs tree root ⟨members, none⟩
      let libraries ← readLibraries tree root ⟨members, none⟩
      checkNames outputs libraries
      let edges ← readLinkEdges ⟨members, none⟩ outputs libraries
      Attempt.note (augmentationLog libraries edges)
      let project : Project := {
        info, cppStandards := standards.1, cStandards := standards.2, targets, defaultTarget,
        outputs := augmentOutputs libraries edges outputs, importedLibraries := libraries, linkEdges := edges }
      Attempt.note [project.summary]
      return project := by
    intro members
    simp only [resolveDescriptor, topFields, Attempt.lift_ok_bind, readBothStandards, declaredStandard,
      Attempt.lift_map_bind, bind_assoc, pure_bind]
  rw [opened, opened]
  simp only [alike.info, alike.standards, alike.targets, alike.defaultTarget, alike.outputs, alike.libraries,
    alike.edges]

theorem Schema.PlainAgree.readAlike {tree : FileTree} {root : Path} (plain : PlainAgree left right)
    (targets : readTargets ⟨left, none⟩ = readTargets ⟨right, none⟩)
    (outputs : readOutputs tree root ⟨left, none⟩ = readOutputs tree root ⟨right, none⟩)
    (libraries : readLibraries tree root ⟨left, none⟩ = readLibraries tree root ⟨right, none⟩) :
    ReadAlike tree root ⟨left, none⟩ ⟨right, none⟩ where
  info := readInfo_congr root plain
  standards := by
    have defaultRules : ∀ default ∈ [Tag.defaultCppStandard, Tag.defaultCStandard],
        (⟨default, .scalar, .optional⟩ : Rule) ∈ topRules ∧ entryRules.lookup default = none := by decide
    have allowedRules : ∀ allowed ∈ [Tag.allowedCppStandards, Tag.allowedCStandards],
        (⟨allowed, .scalars, .filled⟩ : Rule) ∈ topRules ∧ entryRules.lookup allowed = none := by decide
    refine readBothStandards_congr (fun default member => ?_) fun allowed member => ?_
    · obtain ⟨known, noEntries⟩ := defaultRules default member
      rw [declaredStandard, declaredStandard, Fields.optionalScalar_congr (plain _ known noEntries)]
    · obtain ⟨known, noEntries⟩ := allowedRules allowed member
      exact plain _ known noEntries
  targets
  defaultTarget := readDefaultTarget_congr plain
  outputs
  libraries
  edges := readLinkEdges_congr plain

/-- Descriptors that agree are resolved alike, with the same records logged on the way. -/
theorem resolveDescriptor_congr (tree : FileTree) (root : Path) (agree : TopAgree left right) :
    resolveDescriptor tree root (.object left) = resolveDescriptor tree root (.object right) := by
  have targets := readTargets_congr (agree ⟨Tag.targets, .object, .filled⟩ (by decide))
  exact (agree.plain.readAlike targets (readOutputs_congr tree root agree)
    (readLibraries_congr tree root agree)).resolveDescriptor_eq

end Listfile
