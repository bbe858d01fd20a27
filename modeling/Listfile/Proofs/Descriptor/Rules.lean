import Listfile.Proofs.Descriptor.Fields

set_option autoImplicit false

/-! The schema as rules for single fields, and how a field breaks its rule: it is missing, it has the wrong shape, or it
is empty where something has to be. The reader of a field fails only if the field breaks its rule, and its problem says
which field and how. -/

namespace Listfile

namespace Schema

inductive Shape where
  | text
  | scalar
  | texts
  | scalars
  | object
  deriving DecidableEq, Repr

def Shape.wording : Shape → String
  | .text => "a string"
  | .scalar => "a string or a number"
  | .texts => "an array of strings"
  | .scalars => "an array of strings or numbers"
  | .object => "an object"

def IsObject (value : Json) : Prop := ∃ members, value = .object members

def Shape.Fits : Shape → Json → Prop
  | .text => IsText
  | .scalar => IsScalar
  | .texts => IsListOf IsText
  | .scalars => IsListOf IsScalar
  | .object => IsObject

/-- An optional field may be absent or null, and a filled one has to hold something. -/
inductive Presence where
  | optional
  | required
  | filled
  deriving DecidableEq, Repr

structure Rule where
  tag : String
  shape : Shape
  presence : Presence
  deriving DecidableEq, Repr

def topRules : List Rule :=
  [⟨Tag.minimumVersion, .text, .required⟩, ⟨Tag.projectName, .text, .required⟩,
    ⟨Tag.defaultCppStandard, .scalar, .optional⟩, ⟨Tag.defaultCStandard, .scalar, .optional⟩,
    ⟨Tag.allowedCppStandards, .scalars, .filled⟩, ⟨Tag.allowedCStandards, .scalars, .filled⟩,
    ⟨Tag.targets, .object, .filled⟩, ⟨Tag.defaultTarget, .text, .optional⟩, ⟨Tag.output, .object, .filled⟩,
    ⟨Tag.importedLibraries, .object, .optional⟩, ⟨Tag.linkLibraries, .object, .optional⟩]

def targetRules : List Rule := [⟨Tag.cppFlags, .texts, .required⟩, ⟨Tag.cFlags, .texts, .required⟩]

def outputRules : List Rule :=
  [⟨Tag.kind, .text, .required⟩, ⟨Tag.baseFile, .text, .optional⟩, ⟨Tag.sourceDirectories, .texts, .required⟩,
    ⟨Tag.headerDirectories, .texts, .required⟩, ⟨Tag.searchedIncludeDirectories, .texts, .required⟩,
    ⟨Tag.includeDirectories, .texts, .optional⟩]

def executableRules : List Rule := [⟨Tag.executableDirectory, .text, .required⟩]

def builtLibraryRules : List Rule :=
  [⟨Tag.archiveDirectory, .text, .required⟩, ⟨Tag.libraryDirectory, .text, .required⟩]

def libraryRules : List Rule :=
  [⟨Tag.kind, .text, .required⟩, ⟨Tag.rootDirectory, .text, .required⟩, ⟨Tag.libraryFiles, .texts, .filled⟩,
    ⟨Tag.searchedIncludeDirectories, .texts, .required⟩, ⟨Tag.includeDirectories, .texts, .optional⟩,
    ⟨Tag.headerFiles, .texts, .optional⟩]

def entryShapes : List (String × Shape) :=
  [(Tag.targets, .object), (Tag.output, .object), (Tag.importedLibraries, .object), (Tag.linkLibraries, .texts)]

def IsEmpty (value : Json) : Prop := value = .array [] ∨ value = .object []

namespace Rule

def Missing (rule : Rule) (members : List (String × Json)) : Prop :=
  rule.presence ≠ .optional ∧ Json.member? members rule.tag = none

def Misfit (rule : Rule) (members : List (String × Json)) : Prop :=
  ∃ value, Json.member? members rule.tag = some value ∧ ¬rule.shape.Fits value ∧
    (rule.presence = .optional → value ≠ .null)

def Unfilled (rule : Rule) (members : List (String × Json)) : Prop :=
  rule.presence = .filled ∧ ∃ value, Json.member? members rule.tag = some value ∧ IsEmpty value

end Rule

end Schema

namespace Fields

open Schema

/-- The problems of a field that is missing or has the wrong shape. -/
inductive Faults (fields : Fields) (rule : Rule) : Problem → Prop where
  | missing (reason : Option String) : rule.Missing fields.members → Faults fields rule (fields.missing rule.tag reason)
  | misfit : rule.Misfit fields.members → Faults fields rule (fields.wrongType rule.tag rule.shape.wording)

/-- A reader of values that refuses nothing but what does not fit a rule. -/
def Refuses {α : Type} (fields : Fields) (rule : Rule) (read : Json → Except Problem α) : Prop :=
  ∀ value problem, read value = .error problem →
    problem = fields.wrongType rule.tag rule.shape.wording ∧ ¬rule.shape.Fits value

theorem refuses_asText (fields : Fields) (tag : String) (presence : Presence) :
    fields.Refuses ⟨tag, .text, presence⟩ (fields.asText tag) := by
  intro value problem failed
  unfold asText at failed
  cases read : value.text? with
  | some text =>
      rw [read] at failed
      cases failed
  | none =>
      rw [read] at failed
      refine ⟨(Except.error.inj failed).symm, ?_⟩
      intro fits
      obtain ⟨text, isText⟩ := fits
      rw [(Json.text?_eq_some_iff value text).2 isText] at read
      cases read

theorem refuses_asScalar (fields : Fields) (tag : String) (presence : Presence) :
    fields.Refuses ⟨tag, .scalar, presence⟩ (fields.asScalar tag) := by
  intro value problem failed
  unfold asScalar at failed
  cases read : value.scalar? with
  | some text =>
      rw [read] at failed
      cases failed
  | none =>
      rw [read] at failed
      refine ⟨(Except.error.inj failed).symm, ?_⟩
      intro fits
      obtain ⟨text, isScalar⟩ := (Json.scalar?_isSome_iff value).2 fits
      rw [isScalar] at read
      cases read

theorem refuses_asList (fields : Fields) {tag : String} {shape : Shape} {presence : Presence} {item : Json → Prop}
    {read : Json → Option String} (fits_iff : ∀ value, shape.Fits value ↔ IsListOf item value)
    (reads : ∀ value, (∃ text, read value = some text) ↔ item value) :
    fields.Refuses ⟨tag, shape, presence⟩ (fields.asList tag shape.wording read) := by
  intro value problem failed
  have misfit : ¬∃ texts, fields.asList tag shape.wording read value = .ok texts := by
    rw [failed]
    simp
  simp only [asList_eq_ok_iff] at misfit
  have refused : problem = fields.wrongType tag shape.wording := by
    unfold asList at failed
    split at failed
    · split at failed
      · cases failed
      · exact (Except.error.inj failed).symm
    · exact (Except.error.inj failed).symm
  refine ⟨refused, ?_⟩
  intro fits
  obtain ⟨items, isList, each⟩ := (fits_iff value).1 fits
  obtain ⟨texts, all⟩ := (mapM_isSome_iff read items).2 fun entry member => (reads entry).2 (each entry member)
  exact misfit ⟨texts, items, isList, all⟩

theorem refuses_asTexts (fields : Fields) (tag : String) (presence : Presence) :
    fields.Refuses ⟨tag, .texts, presence⟩ (fields.asTexts tag) :=
  fields.refuses_asList (fun _value => Iff.rfl)
    fun value => exists_congr fun text => Json.text?_eq_some_iff value text

theorem refuses_asScalars (fields : Fields) (tag : String) (presence : Presence) :
    fields.Refuses ⟨tag, .scalars, presence⟩ (fields.asScalars tag) :=
  fields.refuses_asList (fun _value => Iff.rfl) Json.scalar?_isSome_iff

theorem refuses_asObject (fields : Fields) (tag : String) (presence : Presence) :
    fields.Refuses ⟨tag, .object, presence⟩ (fields.asObject tag) := by
  intro value problem failed
  unfold asObject at failed
  split at failed
  · cases failed
  · rename_i noObject
    refine ⟨(Except.error.inj failed).symm, ?_⟩
    intro fits
    obtain ⟨members, isObject⟩ := fits
    exact noObject members isObject

variable {fields : Fields} {tag : String} {presence : Presence} {problem : Problem}

theorem faults_of_require {α : Type} {rule : Rule} {read : Json → Except Problem α} (refuses : fields.Refuses rule read)
    (needed : rule.presence ≠ .optional) {reason : Option String}
    (failed : fields.require rule.tag reason >>= read = .error problem) : fields.Faults rule problem := by
  rw [bind_eq_error_iff] at failed
  rcases failed with absent | ⟨value, present, refused⟩
  · unfold require at absent
    cases found : fields.get? rule.tag with
    | some value =>
        rw [found] at absent
        cases absent
    | none =>
        rw [found] at absent
        rw [← Except.error.inj absent]
        exact .missing reason ⟨needed, found⟩
  · obtain ⟨same, misfit⟩ := refuses value problem refused
    rw [same]
    exact .misfit ⟨value, (fields.require_eq_ok_iff rule.tag reason value).1 present, misfit,
      fun isOptional => absurd isOptional needed⟩

theorem Refuses.map {α β : Type} {rule : Rule} {read : Json → Except Problem α} (refuses : fields.Refuses rule read)
    (change : α → β) : fields.Refuses rule fun value => (read value).map change :=
  fun value problem failed => refuses value problem ((map_eq_error_iff _ _ _).1 failed)

theorem faults_of_optional {α : Type} {rule : Rule} {read : Json → Except Problem α} {absent : α}
    (refuses : fields.Refuses rule read)
    (failed : (match fields.optional rule.tag with
      | none => Except.ok absent
      | some value => read value) = .error problem) : fields.Faults rule problem := by
  cases present : fields.optional rule.tag with
  | none =>
      rw [present] at failed
      cases failed
  | some value =>
      rw [present] at failed
      obtain ⟨same, misfit⟩ := refuses value problem failed
      obtain ⟨found, notNull⟩ := (fields.optional_eq_some_iff rule.tag value).1 present
      rw [same]
      exact .misfit ⟨value, found, misfit, fun _isOptional => notNull⟩

theorem faults_of_requireText {reason : Option String} (needed : presence ≠ .optional)
    (failed : fields.requireText tag reason = .error problem) : fields.Faults ⟨tag, .text, presence⟩ problem :=
  faults_of_require (fields.refuses_asText tag presence) needed failed

theorem faults_of_requireTexts {reason : Option String} (needed : presence ≠ .optional)
    (failed : fields.requireTexts tag reason = .error problem) : fields.Faults ⟨tag, .texts, presence⟩ problem :=
  faults_of_require (fields.refuses_asTexts tag presence) needed failed

theorem faults_of_requireScalars {reason : Option String} (needed : presence ≠ .optional)
    (failed : fields.requireScalars tag reason = .error problem) : fields.Faults ⟨tag, .scalars, presence⟩ problem :=
  faults_of_require (fields.refuses_asScalars tag presence) needed failed

theorem faults_of_requireObject {reason : Option String} (needed : presence ≠ .optional)
    (failed : fields.requireObject tag reason = .error problem) : fields.Faults ⟨tag, .object, presence⟩ problem :=
  faults_of_require (fields.refuses_asObject tag presence) needed failed

theorem faults_of_optionalText (failed : fields.optionalText tag = .error problem) :
    fields.Faults ⟨tag, .text, .optional⟩ problem :=
  faults_of_optional ((fields.refuses_asText tag .optional).map some) failed

theorem faults_of_optionalScalar (failed : fields.optionalScalar tag = .error problem) :
    fields.Faults ⟨tag, .scalar, .optional⟩ problem :=
  faults_of_optional ((fields.refuses_asScalar tag .optional).map some) failed

theorem faults_of_optionalTexts (failed : fields.optionalTexts tag = .error problem) :
    fields.Faults ⟨tag, .texts, .optional⟩ problem :=
  faults_of_optional (fields.refuses_asTexts tag .optional) failed

theorem faults_of_optionalObject (failed : fields.optionalObject tag = .error problem) :
    fields.Faults ⟨tag, .object, .optional⟩ problem :=
  faults_of_optional (fields.refuses_asObject tag .optional) failed

theorem unfilled_of_requireScalars {reason : Option String}
    (read : fields.requireScalars tag reason = .ok []) : Rule.Unfilled ⟨tag, .scalars, .filled⟩ fields.members := by
  obtain ⟨items, present, all⟩ := (fields.requireScalars_eq_ok_iff tag reason []).1 read
  have noItem : items = [] := by
    cases items with
    | nil => rfl
    | cons item items =>
        rw [List.mapM_cons] at all
        obtain ⟨text, _isText, rest⟩ := Option.bind_eq_some_iff.1 all
        obtain ⟨others, _areTexts, impossible⟩ := Option.bind_eq_some_iff.1 rest
        cases impossible
  rw [noItem] at present
  exact ⟨rfl, _, present, Or.inl rfl⟩

theorem unfilled_of_requireTexts {reason : Option String}
    (read : fields.requireTexts tag reason = .ok []) : Rule.Unfilled ⟨tag, .texts, .filled⟩ fields.members :=
  ⟨rfl, _, (fields.requireTexts_eq_ok_iff tag reason []).1 read, Or.inl rfl⟩

theorem unfilled_of_requireObject {reason : Option String}
    (read : fields.requireObject tag reason = .ok []) : Rule.Unfilled ⟨tag, .object, .filled⟩ fields.members :=
  ⟨rfl, _, (fields.requireObject_eq_ok_iff tag reason []).1 read, Or.inr rfl⟩

end Fields

end Listfile
