import Listfile.Descriptor.Fields
import Listfile.Project.Document
import Listfile.Proofs.Json.ReadBack
import Listfile.Proofs.Project.Soundness

set_option autoImplicit false

/-! Projects read back from what is written of them. A reader looks for every field by its key. It finds the project
again in its document, and in the text of the document as long as every count is a machine word. -/

namespace Listfile

namespace Json

def field? (value : Json) (key : String) : Option Json :=
  match value with
  | .object members => member? members key
  | _ => none

def listOf? {α : Type} (read : Json → Option α) : Json → Option (List α)
  | .array items => items.mapM read
  | _ => none

def texts? : Json → Option (List String) := listOf? text?

def count? : Json → Option Nat
  | .number (.integer (.ofNat count)) => some count
  | _ => none

@[simp] theorem field?_cons (key name : String) (value : Json) (members : List (String × Json)) :
    field? (.object ((name, value) :: members)) key =
      if key = name then some value else field? (.object members) key := by
  by_cases same : key = name
  · rw [field?, member?, same, List.lookup_cons_self, if_pos rfl]
  · rw [field?, member?, List.lookup_cons, beq_false_of_ne same, if_neg same]
    rfl

@[simp] theorem text?_string (text : String) : text? (.string text) = some text := rfl

@[simp] theorem count?_count (count : Nat) : count? (.count count) = some count := rfl

@[simp] theorem listOf?_map {α : Type} {read : Json → Option α} (write : α → Json)
    (reads : ∀ item, read (write item) = some item) (items : List α) :
    listOf? read (.array (items.map write)) = some items := by
  rw [listOf?]
  induction items with
  | nil => rfl
  | cons item items ih =>
      rw [List.map_cons, List.mapM_cons, reads, ih]
      rfl

@[simp] theorem texts?_texts (items : List String) : texts? (texts items) = some items :=
  listOf?_map Json.string (fun _text => rfl) items

end Json

def Linkage.ofWord? (word : String) : Option Linkage :=
  if word = "static" then some .static else if word = "shared" then some .shared else none

def ProjectInfo.ofJson? (value : Json) : Option ProjectInfo := do
  return ⟨← (← value.field? "name").text?, ← (← value.field? "min_cmake_version").text?,
    Path.ofString (← (← value.field? "path").text?)⟩

def LanguageStandards.ofJson? (value : Json) : Option LanguageStandards := do
  return ⟨← (← value.field? "default").text?, ← (← value.field? "allowed").texts?⟩

def BuildTarget.ofJson? (value : Json) : Option BuildTarget := do
  return ⟨← (← value.field? "name").text?, ← (← value.field? "c_flags").texts?, ← (← value.field? "cpp_flags").texts?⟩

def OutputKind.ofJson? (value : Json) : Option OutputKind := do
  match ← (← value.field? "type").text? with
  | "executable" => return .executable (← (← value.field? "output_dir").text?)
  | "library" =>
    return .library (← Linkage.ofWord? (← (← value.field? "linkage").text?)) (← (← value.field? "archive_dir").text?)
      (← (← value.field? "library_dir").text?)
  | _ => none

def OutputUnit.ofJson? (value : Json) : Option OutputUnit := do
  return ⟨← (← value.field? "name").text?, ← OutputKind.ofJson? (← value.field? "kind"),
    ← (← value.field? "sources").texts?, ← (← value.field? "include_dirs").texts?⟩

def ImportedLibrary.ofJson? (value : Json) : Option ImportedLibrary := do
  return ⟨← (← value.field? "name").text?, ← Linkage.ofWord? (← (← value.field? "linkage").text?),
    ← (← value.field? "root_dir").text?, ← (← value.field? "lib_files").texts?,
    ← (← value.field? "include_dirs").texts?, ← (← value.field? "header_files").texts?⟩

def LinkReference.ofJson? (value : Json) : Option LinkReference := do
  match ← (← value.field? "kind").text? with
  | "output" => return .output (← (← value.field? "name").text?)
  | "imported" => return .imported (← (← value.field? "name").text?) (← (← value.field? "file_count").count?)
  | _ => none

def LinkEdge.ofJson? (value : Json) : Option LinkEdge := do
  return ⟨← (← value.field? "source").text?, ← (← value.field? "targets").listOf? LinkReference.ofJson?⟩

def readNullable : Json → Option (Option String)
  | .null => some none
  | .string text => some (some text)
  | _ => none

def Project.ofJson? (value : Json) : Option Project := do
  return {
    info := ← ProjectInfo.ofJson? (← value.field? "info")
    cStandards := ← LanguageStandards.ofJson? (← value.field? "c_standards")
    cppStandards := ← LanguageStandards.ofJson? (← value.field? "cpp_standards")
    targets := ← (← value.field? "targets").listOf? BuildTarget.ofJson?
    defaultTarget := ← readNullable (← value.field? "default_target")
    outputs := ← (← value.field? "outputs").listOf? OutputUnit.ofJson?
    importedLibraries := ← (← value.field? "imported_libraries").listOf? ImportedLibrary.ofJson?
    linkEdges := ← (← value.field? "link_edges").listOf? LinkEdge.ofJson? }

theorem Path.ofString_display {path : Path} (isText : path.isText = true) : Path.ofString path.display = path := by
  have units : path.units.map (fun unit => .char unit.shown) = path.units := by
    rw [List.map_congr_left, List.map_id]
    intro unit member
    have shown := List.all_eq_true.1 isText unit member
    cases unit with
    | char character => rfl
    | invalid bytes => cases shown
  rw [Path.ofString, Path.display, String.toList_ofList, List.map_map]
  exact congrArg Path.mk units

@[simp] theorem Linkage.ofWord?_word (linkage : Linkage) : Linkage.ofWord? linkage.word = some linkage := by
  cases linkage <;> rfl

theorem ProjectInfo.ofJson?_toJson {info : ProjectInfo} (isText : info.path.isText = true) :
    ProjectInfo.ofJson? info.toJson = some info := by
  simp [ofJson?, toJson, Path.ofString_display isText]

@[simp] theorem LanguageStandards.ofJson?_toJson (standards : LanguageStandards) :
    LanguageStandards.ofJson? standards.toJson = some standards := by
  simp [ofJson?, toJson]

@[simp] theorem BuildTarget.ofJson?_toJson (target : BuildTarget) : BuildTarget.ofJson? target.toJson = some target := by
  simp [ofJson?, toJson]

@[simp] theorem OutputKind.ofJson?_toJson (kind : OutputKind) : OutputKind.ofJson? kind.toJson = some kind := by
  cases kind with
  | executable directory => simp [ofJson?, toJson]
  | library linkage archiveDirectory libraryDirectory => simp [ofJson?, toJson]

@[simp] theorem OutputUnit.ofJson?_toJson (unit : OutputUnit) : OutputUnit.ofJson? unit.toJson = some unit := by
  simp [ofJson?, toJson]

@[simp] theorem ImportedLibrary.ofJson?_toJson (library : ImportedLibrary) :
    ImportedLibrary.ofJson? library.toJson = some library := by
  simp [ofJson?, toJson]

@[simp] theorem LinkReference.ofJson?_toJson (reference : LinkReference) :
    LinkReference.ofJson? reference.toJson = some reference := by
  cases reference with
  | output name => simp [ofJson?, toJson]
  | imported name fileCount => simp [ofJson?, toJson]

@[simp] theorem LinkEdge.ofJson?_toJson (edge : LinkEdge) : LinkEdge.ofJson? edge.toJson = some edge := by
  simp [ofJson?, toJson]

theorem Project.ofJson?_toJson {project : Project} (isText : project.info.path.isText = true) :
    Project.ofJson? project.toJson = some project := by
  obtain ⟨info, cStandards, cppStandards, targets, defaultTarget, outputs, importedLibraries, linkEdges⟩ := project
  have readInfo := ProjectInfo.ofJson?_toJson isText
  cases defaultTarget with
  | none => simp [ofJson?, toJson, readInfo, readNullable]
  | some name => simp [ofJson?, toJson, readInfo, readNullable]

section

open Json (Plain)

variable (depth : Nat)

theorem plain_list {α : Type} (write : α → Json) {items : List α} (each : ∀ item ∈ items, Plain depth (write item)) :
    Plain (depth + 1) (.array (items.map write)) :=
  .array (List.forall_mem_map.2 each)

theorem plain_texts (items : List String) : Plain (depth + 1) (.texts items) :=
  plain_list depth .string fun text _member => .string depth text

theorem ProjectInfo.plain_toJson (info : ProjectInfo) : Plain (depth + 1) info.toJson := by
  refine .object (by simp) ?_
  simp only [List.forall_mem_cons]
  exact ⟨.string _ _, .string _ _, .string _ _, nofun⟩

theorem LanguageStandards.plain_toJson (standards : LanguageStandards) : Plain (depth + 2) standards.toJson := by
  refine .object (by simp) ?_
  simp only [List.forall_mem_cons]
  exact ⟨.string _ _, plain_texts _ _, nofun⟩

theorem BuildTarget.plain_toJson (target : BuildTarget) : Plain (depth + 2) target.toJson := by
  refine .object (by simp) ?_
  simp only [List.forall_mem_cons]
  exact ⟨.string _ _, plain_texts _ _, plain_texts _ _, nofun⟩

theorem OutputKind.plain_toJson (kind : OutputKind) : Plain (depth + 1) kind.toJson := by
  cases kind with
  | executable directory =>
      refine .object (by simp) ?_
      simp only [List.forall_mem_cons]
      exact ⟨.string _ _, .string _ _, nofun⟩
  | library linkage archiveDirectory libraryDirectory =>
      refine .object (by simp) ?_
      simp only [List.forall_mem_cons]
      exact ⟨.string _ _, .string _ _, .string _ _, .string _ _, nofun⟩

theorem OutputUnit.plain_toJson (unit : OutputUnit) : Plain (depth + 2) unit.toJson := by
  refine .object (by simp) ?_
  simp only [List.forall_mem_cons]
  exact ⟨.string _ _, unit.kind.plain_toJson _, plain_texts _ _, plain_texts _ _, nofun⟩

theorem ImportedLibrary.plain_toJson (library : ImportedLibrary) : Plain (depth + 2) library.toJson := by
  refine .object (by simp) ?_
  simp only [List.forall_mem_cons]
  exact ⟨.string _ _, .string _ _, .string _ _, plain_texts _ _, plain_texts _ _, plain_texts _ _, nofun⟩

theorem LinkEdge.plain_toJson (edge : LinkEdge)
    (fits : ∀ name count, .imported name count ∈ edge.targets → count ≤ Json.greatestWord) :
    Plain (depth + 3) edge.toJson := by
  have each : ∀ target ∈ edge.targets, Plain (depth + 1) target.toJson := by
    intro target member
    cases target with
    | output name =>
        refine .object (by simp) ?_
        simp only [List.forall_mem_cons]
        exact ⟨.string _ _, .string _ _, nofun⟩
    | imported name count =>
        have least : -Int.ofNat (Nat.pow 2 63) ≤ 0 := by decide
        have word : Json.FitsWord count :=
          ⟨Int.le_trans least (Int.natCast_nonneg count), Int.ofNat_le.2 (fits name count member)⟩
        refine .object (by simp) ?_
        simp only [List.forall_mem_cons]
        exact ⟨.string _ _, .string _ _, .number _ word, nofun⟩
  refine .object (by simp) ?_
  simp only [List.forall_mem_cons]
  exact ⟨.string _ _, plain_list _ _ each, nofun⟩

/-- No library is linked with more files than a machine word can count. -/
def Project.CountsFit (project : Project) : Prop :=
  ∀ edge ∈ project.linkEdges, ∀ name count, .imported name count ∈ edge.targets → count ≤ Json.greatestWord

theorem Project.plain_toJson {project : Project} (fits : project.CountsFit) : Plain (depth + 5) project.toJson := by
  refine .object (by simp) ?_
  simp only [List.forall_mem_cons]
  refine ⟨project.info.plain_toJson _, project.cStandards.plain_toJson _, project.cppStandards.plain_toJson _,
    plain_list _ _ fun target _member => target.plain_toJson _, ?_,
    plain_list _ _ fun unit _member => unit.plain_toJson _,
    plain_list _ _ fun library _member => library.plain_toJson _,
    plain_list _ _ fun edge member => edge.plain_toJson _ (fits edge member), nofun⟩
  split
  · exact .string _ _
  · exact .null _

end

theorem Project.ReadFrom.countsFit {tree : FileTree} {root : Path} {members : List (String × Json)}
    {units : List OutputUnit} {project : Project} (read : project.ReadFrom tree root ⟨members, none⟩ units)
    (sizes : ∀ library ∈ project.importedLibraries, library.files.length ≤ Json.greatestWord) : project.CountsFit := by
  intro edge inEdges name count member
  obtain ⟨_listed, _isEntry, sound⟩ := read.edges_sound edge inEdges
  rcases sound.origin _ member with ⟨unit, _inOutputs, same⟩ | ⟨library, inLibraries, same, _filled⟩
  · cases same
  · cases same
    exact sizes library inLibraries

/-- The text of a document is read back as the document. -/
theorem Project.parse_document {project : Project} (fits : project.CountsFit) :
    Json.parse (project.toJson.indented 0 ++ "\n") = .ok project.toJson := by
  have blank : ∀ letter ∈ "\n".toList, Json.isBlank letter = true := List.forall_mem_singleton.2 rfl
  have plain : Json.Plain Json.greatestDepth project.toJson := project.plain_toJson 122 fits
  exact Json.parse_indented plain 0 blank

end Listfile
