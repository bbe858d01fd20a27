import Listfile.Proofs.Descriptor.Blanks
import Listfile.Proofs.Descriptor.Defects
import Listfile.Proofs.Path.Ends
import Mathlib.Computability.Primrec.List
import Mathlib.Data.List.Permutation

-- The Mathlib files state the equations of `List.lookup` and `Prod.snd` that `cbv` evaluates with.
set_option autoImplicit false

/-! An output with an empty base file. The base file is not absent then: it is the directory of the project, which is
written `.` and counts as a source. -/

namespace Listfile

namespace Schema

inductive BaseFileChanges (name : String) (before after : Option Json) : Json → Json → Prop where
  | entry {earlier later entry changed members others : List (String × Json)} :
      name ∉ (earlier ++ later).map Prod.fst → FieldChanges Tag.baseFile before after entry changed →
        FieldChanges Tag.output (some (.object (earlier ++ (name, .object entry) :: later)))
          (some (.object (earlier ++ (name, .object changed) :: later))) members others →
        BaseFileChanges name before after (.object members) (.object others)

end Schema

open Schema

variable {members others earlier later : List (String × Json)} {parent : Option String} {name : String} {entry : Json}

theorem baseSource_of_stays (root : Path) {file : String} (stays : file ∈ ["", "."]) :
    baseSource root (some file) = ["."] := by
  have relative : ∀ other ∈ ["", "."], (Path.ofString (normalizeSeparators other)).isAbsolute = false := by decide
  have nowhere : ∀ other ∈ ["", "."], (Path.ofString (normalizeSeparators other)).moves = [] := by decide
  rw [baseSource, Option.map_some, Path.scriptPath_join_of_stays root (relative file stays) (nowhere file stays)]
  rfl

theorem readOutputFields_of_read (tree : FileTree) (root : Path) (name : String) {fields : Fields}
    {baseFile : Option String} (read : fields.optionalText Tag.baseFile = .ok baseFile) :
    readOutputFields tree root name fields = (do
      let linkage ← readOutputKindWord fields
      readOutputBehind tree root name fields linkage (baseSource root baseFile)) := by
  rw [readOutputFields_eq, read]
  rfl

theorem readOutputFields_of_changed (tree : FileTree) (root : Path) (name : String) {before after : Option Json}
    (changes : FieldChanges Tag.baseFile before after members others) {baseFile : Option String}
    (read : Fields.optionalText ⟨others, parent⟩ Tag.baseFile = .ok baseFile) :
    readOutputFields tree root name ⟨others, parent⟩ = (do
      let linkage ← readOutputKindWord ⟨members, parent⟩
      readOutputBehind tree root name ⟨members, parent⟩ linkage (baseSource root baseFile)) := by
  have apart : ∀ tag ∈ Tag.includeDirectories :: neededOutputTags, tag ≠ Tag.baseFile := by decide
  have same : ∀ tag ∈ Tag.includeDirectories :: neededOutputTags, Json.member? members tag = Json.member? others tag :=
    fun tag member => changes.elsewhere tag (apart tag member)
  rw [List.forall_mem_cons] at same
  have literal : Fields.optionalTexts ⟨members, parent⟩ Tag.includeDirectories =
      Fields.optionalTexts ⟨others, parent⟩ Tag.includeDirectories :=
    Fields.optionalTexts_congr (Fields.optional_congr same.1)
  rw [readOutputFields_of_read tree root name read, readOutputKindWord_eq_of_member? (same.2 Tag.kind (by decide))]
  simp only [readOutputBehind_congr tree root name same.2 literal]

theorem optionalText_of_member? {file : String} (present : Json.member? members Tag.baseFile = some (.string file)) :
    Fields.optionalText ⟨members, parent⟩ Tag.baseFile = .ok (some file) :=
  (Fields.optionalText_eq_ok_iff _ _ _).2 ((Fields.optional_eq_some_iff _ _ _).2 ⟨present, nofun⟩)

theorem readOutputFields_eq_of_stays (tree : FileTree) (root : Path) (name : String)
    (changes : FieldChanges Tag.baseFile (some (.string "")) (some (.string ".")) members others) :
    readOutputFields tree root name ⟨members, parent⟩ = readOutputFields tree root name ⟨others, parent⟩ := by
  rw [readOutputFields_of_changed tree root name changes (optionalText_of_member? changes.after),
    readOutputFields_of_read tree root name (optionalText_of_member? changes.before),
    baseSource_of_stays root (by decide), baseSource_of_stays root (by decide)]

/-- An empty base file is read as a base file that is the directory of the project. -/
theorem Schema.BaseFileChanges.resolveDescriptor_eq {descriptor other : Json}
    (changes : BaseFileChanges name (some (.string "")) (some (.string ".")) descriptor other) (tree : FileTree)
    (root : Path) : resolveDescriptor tree root descriptor = resolveDescriptor tree root other := by
  cases changes with
  | entry _apart baseFile output =>
      exact (readAlike_of_output tree root output
        (readOutputFields_eq_of_stays tree root name baseFile)).resolveDescriptor_eq

/-- What an outcome becomes if one problem is waived, and the value is changed otherwise. Nothing is said of what the
problem becomes. -/
structure Eases {α β : Type} (waived : Problem) (change : α → β) (before : Except Problem α)
    (after : Except Problem β) : Prop where
  accepted : ∀ value, before = .ok value → after = .ok (change value)
  refused : ∀ problem, before = .error problem → problem ≠ waived → after = .error problem

namespace Eases

variable {α β γ δ : Type} {waived : Problem}

theorem pure {change : α → β} {value : α} {changed : β} (same : changed = change value) :
    Eases waived change (.ok value) (.ok changed) where
  accepted := fun _value isValue => congrArg Except.ok (same.trans (congrArg change (Except.ok.inj isValue)))
  refused := nofun

theorem fail (change : α → β) (after : Except Problem β) : Eases waived change (.error waived) after where
  accepted := nofun
  refused := fun _problem isProblem other => absurd (Except.error.inj isProblem).symm other

theorem bind {change : α → β} {changeNext : γ → δ} {before : Except Problem α} {after : Except Problem β}
    {next : α → Except Problem γ} {nextAfter : β → Except Problem δ} (first : Eases waived change before after)
    (rest : ∀ value, before = .ok value → Eases waived changeNext (next value) (nextAfter (change value))) :
    Eases waived changeNext (before >>= next) (after >>= nextAfter) := by
  cases before with
  | ok value =>
      rw [first.accepted value rfl]
      exact rest value rfl
  | error problem =>
      refine ⟨nofun, fun other isProblem notWaived => ?_⟩
      cases isProblem
      rw [first.refused problem rfl notWaived]
      rfl

theorem bind_same {changeNext : γ → δ} {outcome : Except Problem α} {next : α → Except Problem γ}
    {nextAfter : α → Except Problem δ}
    (rest : ∀ value, outcome = .ok value → Eases waived changeNext (next value) (nextAfter value)) :
    Eases waived changeNext (outcome >>= next) (outcome >>= nextAfter) := by
  have same : Eases waived id outcome outcome := ⟨fun _value same => same, fun _problem same _other => same⟩
  exact same.bind rest

end Eases

/-! ### The directory of the project as a source -/

def noSourcesProblem (name : String) : Problem := .emptyField Tag.sourceDirectories (some name) Reason.noSources

def OutputUnit.withDirectory (unit : OutputUnit) : OutputUnit :=
  { unit with sources := orderedUnion ["."] unit.sources }

def OutputUnit.withDirectoryIn (name : String) (unit : OutputUnit) : OutputUnit :=
  if unit.name = name then unit.withDirectory else unit

def Project.withDirectoryIn (name : String) (project : Project) : Project :=
  { project with outputs := project.outputs.map (OutputUnit.withDirectoryIn name) }

@[simp] theorem OutputUnit.withDirectoryIn_name (name : String) (unit : OutputUnit) :
    (unit.withDirectoryIn name).name = unit.name := by
  rw [withDirectoryIn]
  split <;> rfl

/-- One source more in front makes the same list longer, and there is a source then. -/
theorem eases_readOutputBehind (tree : FileTree) (root : Path) (name : String) (linkage : Option Linkage) :
    Eases (noSourcesProblem name) OutputUnit.withDirectory
      (readOutputBehind tree root name ⟨members, some name⟩ linkage []).outcome
      (readOutputBehind tree root name ⟨members, some name⟩ linkage ["."]).outcome := by
  simp only [readOutputBehind, Attempt.outcome_bind, Attempt.outcome_lift, Attempt.outcome_note, ok_bind]
  refine .bind_same fun sourceDirectories _sourcesRead => .bind_same fun headerDirectories _headersRead => ?_
  have longer : ∀ sources headers : List String, orderedUnion (orderedUnion ["."] sources) headers =
      orderedUnion ["."] (orderedUnion (orderedUnion [] sources) headers) := by
    intro sources headers
    rw [orderedUnion_assoc, orderedUnion_assoc, orderedUnion_nil]
  have filled : ∀ items : List String, ¬(orderedUnion ["."] items).isEmpty = true := by
    intro items
    simp [orderedUnion_eq_nil_iff]
  rw [longer, if_neg (filled _)]
  split
  · exact .fail _ _
  · simp only [Attempt.outcome_bind, Attempt.outcome_lift, Attempt.outcome_note, ok_bind, Attempt.outcome_pure]
    exact .bind_same fun searched _searchedRead => .bind_same fun literal _literalRead =>
      .bind_same fun kind _kindRead => .pure rfl

theorem eases_readOutput (tree : FileTree) (root : Path) (name : String)
    (changes : FieldChanges Tag.baseFile none (some (.string "")) members others) :
    Eases (noSourcesProblem name) OutputUnit.withDirectory (readOutput tree root name (.object members)).outcome
      (readOutput tree root name (.object others)).outcome := by
  have absent : Fields.optionalText ⟨members, some name⟩ Tag.baseFile = .ok none := by
    simp only [Fields.optionalText, Fields.optional, Fields.get?, changes.before]
  change Eases _ _ (readOutputFields tree root name ⟨members, some name⟩).outcome
    (readOutputFields tree root name ⟨others, some name⟩).outcome
  rw [readOutputFields_of_read tree root name absent,
    readOutputFields_of_changed tree root name changes (optionalText_of_member? changes.after),
    baseSource_of_stays root (by decide), Attempt.outcome_bind, Attempt.outcome_bind]
  exact .bind_same fun linkage _kindRead => eases_readOutputBehind tree root name linkage

theorem map_withDirectoryIn {tree : FileTree} {root : Path} {entries : List (String × Json)} {units : List OutputUnit}
    (apart : name ∉ entries.map Prod.fst)
    (read : entries.mapM (fun entry => (readOutput tree root entry.1 entry.2).outcome) = .ok units) :
    units.map (OutputUnit.withDirectoryIn name) = units := by
  refine (List.map_congr_left fun unit member => ?_).trans (List.map_id units)
  obtain ⟨entry, inEntries, readEntry⟩ := forall₂_exists_left ((mapM_eq_ok_iff _ _ _).1 read) member
  refine if_neg fun same => apart ?_
  rw [← same, readOutput_name readEntry]
  exact List.mem_map_of_mem inEntries

theorem eases_readOutputs (tree : FileTree) (root : Path) {entry changed : List (String × Json)}
    (apart : name ∉ (earlier ++ later).map Prod.fst)
    (changes : FieldChanges Tag.baseFile none (some (.string "")) entry changed) :
    Eases (noSourcesProblem name) (List.map (OutputUnit.withDirectoryIn name))
      ((earlier ++ (name, .object entry) :: later).mapM fun member =>
        (readOutput tree root member.1 member.2).outcome)
      ((earlier ++ (name, .object changed) :: later).mapM fun member =>
        (readOutput tree root member.1 member.2).outcome) := by
  rw [List.map_append, List.mem_append, not_or] at apart
  simp only [List.mapM_append, List.mapM_cons, bind_assoc, pure_bind]
  refine .bind_same fun before beforeRead => .bind (eases_readOutput tree root name changes) fun unit unitRead =>
    .bind_same fun after afterRead => .pure ?_
  have here : unit.withDirectoryIn name = unit.withDirectory := if_pos (readOutput_name unitRead)
  rw [List.map_append, List.map_cons, map_withDirectoryIn apart.1 beforeRead, map_withDirectoryIn apart.2 afterRead,
    here]

theorem withDirectoryIn_pickUp (name : String) (unit : OutputUnit) (library : ImportedLibrary) :
    (unit.withDirectoryIn name).pickUp library = (unit.pickUp library).withDirectoryIn name := by
  have sameName : (unit.pickUp library).name = unit.name := rfl
  rw [OutputUnit.withDirectoryIn, OutputUnit.withDirectoryIn, sameName]
  split
  · exact congrArg (fun sources : List String => { unit.pickUp library with sources })
      (orderedUnion_insertNew ["."] unit.sources (variableReference library.headerVariable)).symm
  · rfl

theorem eases_resolveDescriptor (tree : FileTree) (root : Path) {descriptor other : Json}
    (changes : BaseFileChanges name none (some (.string "")) descriptor other) :
    Eases (noSourcesProblem name) (Project.withDirectoryIn name) (resolveDescriptor tree root descriptor).outcome
      (resolveDescriptor tree root other).outcome := by
  cases changes with
  | @entry earlier later entry changed members others apart baseFile output =>
      have settingsApart : ∀ tag ∈ settingTags, tag ≠ Tag.output := by decide
      have settings := Stage.seesOnly_readSettings root (List.Subset.refl _) members others
        fun tag member => output.elsewhere tag (settingsApart tag member)
      have libraries := readLibraries_eq_of_optionalObject tree root (Fields.optionalObject_congr
        (Fields.optional_congr (output.elsewhere Tag.importedLibraries (by decide))))
      have links := readLinkEdges_congr (plainAgree_of_map (by decide) output.elsewhere)
      have keepsName := OutputUnit.withDirectoryIn_name name
      rw [outcome_resolveDescriptor, outcome_resolveDescriptor, settings, libraries,
        readOutputs_of_present tree root output.before (by simp),
        readOutputs_of_present tree root output.after (by simp), Attempt.outcome_mapM, Attempt.outcome_mapM]
      refine .bind_same fun settings _settingsRead => .bind (eases_readOutputs tree root apart baseFile)
        fun units _unitsRead => .bind_same fun libraries _librariesRead => ?_
      rw [checkNames_map keepsName, readLinkEdges_map keepsName, links]
      refine .bind_same fun _done _apart => .bind_same fun edges _edgesRead => .pure ?_
      rw [augmentOutputs_map keepsName units libraries (withDirectoryIn_pickUp name)]
      rfl

theorem readOutput_ne_noSources (tree : FileTree) (root : Path) {file : String}
    (present : Json.member? members Tag.baseFile = some (.string file)) :
    (readOutput tree root name (.object members)).outcome ≠ .error (noSourcesProblem name) := by
  intro failed
  have alone : (name, .object members) ∈
      (Json.object [(Tag.output, .object [(name, .object members)])]).membersUnder Tag.output :=
    List.mem_singleton.2 rfl
  have defect := defect_of_readOutput alone failed
  generalize isProblem : noSourcesProblem name = problem at defect
  cases defect with
  | @unfilled parent reason fields rule governs unfilled =>
      have neverFilled : ∀ rule ∈ topRules ++ targetRules ++ outputRules ++ executableRules ++ builtLibraryRules ++
          libraryRules, rule.tag = Tag.sourceDirectories → rule.presence ≠ .filled := by decide
      have known : rule ∈ topRules ++ targetRules ++ outputRules ++ executableRules ++ builtLibraryRules ++
          libraryRules := by
        cases governs <;> simp only [List.mem_append, *, true_or, or_true]
      exact neverFilled rule known (Problem.emptyField.inj isProblem).1.symm unfilled.1
  | @noSources other reason fields member without =>
      cases isProblem
      cases List.mem_singleton.1 member
      exact nomatch without.baseFile _ present
  | _ => cases isProblem

theorem eq_of_mem_entries (apart : name ∉ (earlier ++ later).map Prod.fst) {other : Json}
    (member : (name, other) ∈ earlier ++ (name, entry) :: later) : other = entry := by
  rcases List.mem_append.1 member with inFront | behind
  · exact absurd (List.mem_map_of_mem (List.mem_append_left later inFront)) apart
  · rcases List.mem_cons.1 behind with here | inBack
    · exact (Prod.mk.inj here).2
    · exact absurd (List.mem_map_of_mem (List.mem_append_right earlier inBack)) apart

/-- A blank field is as good as none, and the same is logged. Only an empty base file is not: it is a base file, which
is the directory of the project, and that becomes the first source of its output. So the output has a source, and
everything else stays. -/
theorem resolveDescriptor_blanks (tree : FileTree) (root : Path) (descriptor other : Json) :
    (AddsBlank descriptor other → resolveDescriptor tree root descriptor = resolveDescriptor tree root other) ∧
      ∀ name : String,
        (BaseFileChanges name (some (.string "")) (some (.string ".")) descriptor other →
          resolveDescriptor tree root descriptor = resolveDescriptor tree root other) ∧
        (BaseFileChanges name none (some (.string "")) descriptor other →
          Eases (noSourcesProblem name) (Project.withDirectoryIn name) (resolveDescriptor tree root descriptor).outcome
              (resolveDescriptor tree root other).outcome ∧
            ∀ output, (name, output) ∈ other.membersUnder Tag.output →
              (readOutput tree root name output).outcome ≠ .error (noSourcesProblem name)) := by
  refine ⟨fun blank => blank.resolveDescriptor_eq tree root, fun name =>
    ⟨fun changes => changes.resolveDescriptor_eq tree root, fun changes =>
      ⟨eases_resolveDescriptor tree root changes, fun output member => ?_⟩⟩⟩
  cases changes with
  | @entry earlier later entry changed members others apart baseFile outputs =>
      rw [Json.membersUnder, outputs.after] at member
      rw [eq_of_mem_entries apart member]
      exact readOutput_ne_noSources tree root baseFile.after

def searchingMembers (sourceDirectories : List String) (baseFile : List (String × Json)) : List (String × Json) :=
  [(Tag.kind, .string "executable")] ++ (baseFile ++ [(Tag.sourceDirectories, .texts sourceDirectories),
    (Tag.headerDirectories, .texts []), (Tag.searchedIncludeDirectories, .texts []),
    (Tag.executableDirectory, .string "bin")])

def searchingFields (entry front : List (String × Json)) : List (String × Json) :=
  front ++ (smallHead ++ [(Tag.targets, .object [("debug", targetEntry [] [])])] ++
    (Tag.output, .object [("app", .object entry)]) :: smallTail)

def searchingSample (sourceDirectories : List String) (baseFile : List (String × Json)) : Json :=
  .object (searchingFields (searchingMembers sourceDirectories baseFile) [])

theorem baseFileChanges_searchingSample (sourceDirectories : List String) (file other : String) :
    BaseFileChanges "app" none (some (.string file)) (searchingSample sourceDirectories [])
        (searchingSample sourceDirectories [(Tag.baseFile, .string file)]) ∧
      BaseFileChanges "app" (some (.string file)) (some (.string other))
        (searchingSample sourceDirectories [(Tag.baseFile, .string file)])
        (searchingSample sourceDirectories [(Tag.baseFile, .string other)]) := by
  have absent : Tag.baseFile ∉ [Tag.kind, Tag.sourceDirectories, Tag.headerDirectories, Tag.searchedIncludeDirectories,
    Tag.executableDirectory] := by decide
  have outputs : ∀ before after : List (String × Json),
      FieldChanges Tag.output (some (.object ([] ++ ("app", .object before) :: [])))
        (some (.object ([] ++ ("app", .object after) :: []))) (searchingFields before []) (searchingFields after []) :=
    fun _before _after => fieldChanges_replace (by decide) smallTail _ _
  exact ⟨.entry List.not_mem_nil (fieldChanges_insert absent _) (outputs _ _),
    .entry List.not_mem_nil (fieldChanges_replace (by decide) _ _ _) (outputs _ _)⟩

theorem addsBlank_searchingFields (entry : List (String × Json)) :
    AddsBlank (.object (searchingFields entry []))
      (.object (searchingFields entry [(Tag.defaultTarget, .string "")])) := by
  have known : ⟨Tag.defaultTarget, .text, .optional⟩ ∈ topRules := by decide
  have absent : Tag.defaultTarget ∉ (smallHead ++ [(Tag.targets, Json.null), (Tag.output, Json.null)] ++
    smallTail).map Prod.fst := by decide
  refine .top ⟨known, rfl, ?_⟩
  refine fieldChanges_insert ?_ _
  exact absent

def singleFile : FileTree := ⟨[([Name.ofString "a.c"], .file (.text ""))], []⟩

theorem resolveDescriptor_blanks_searchingSample :
    (AddsBlank (searchingSample ["a.c"] [])
          (.object (searchingFields (searchingMembers ["a.c"] []) [(Tag.defaultTarget, .string "")])) ∧
        BaseFileChanges "app" (some (.string "")) (some (.string "."))
          (searchingSample ["a.c"] [(Tag.baseFile, .string "")])
          (searchingSample ["a.c"] [(Tag.baseFile, .string ".")]) ∧
        BaseFileChanges "app" none (some (.string "")) (searchingSample ["a.c"] [])
          (searchingSample ["a.c"] [(Tag.baseFile, .string "")])) ∧
      resolveDescriptor singleFile (Path.ofString ".") (searchingSample ["a.c"] []) =
        resolveDescriptor singleFile (Path.ofString ".")
          (.object (searchingFields (searchingMembers ["a.c"] []) [(Tag.defaultTarget, .string "")])) ∧
      resolveDescriptor singleFile (Path.ofString ".") (searchingSample ["a.c"] [(Tag.baseFile, .string "")]) =
        resolveDescriptor singleFile (Path.ofString ".") (searchingSample ["a.c"] [(Tag.baseFile, .string ".")]) ∧
      ∃ project, (resolveDescriptor singleFile (Path.ofString ".") (searchingSample ["a.c"] [])).outcome = .ok project ∧
        (resolveDescriptor singleFile (Path.ofString ".")
          (searchingSample ["a.c"] [(Tag.baseFile, .string "")])).outcome = .ok (project.withDirectoryIn "app") := by
  have blank := addsBlank_searchingFields (searchingMembers ["a.c"] [])
  obtain ⟨added, dotted⟩ := baseFileChanges_searchingSample ["a.c"] "" "."
  obtain ⟨project, resolved, _outputs⟩ := (map_eq_ok_iff Project.outputs _ _).1
    (show (resolveDescriptor singleFile (Path.ofString ".") (searchingSample ["a.c"] [])).outcome.map Project.outputs =
      .ok [⟨"app", .executable "bin", ["a.c"], []⟩] by cbv)
  exact ⟨⟨blank, dotted, added⟩, (resolveDescriptor_blanks _ _ _ _).1 blank,
    ((resolveDescriptor_blanks _ _ _ _).2 "app").1 dotted, project, resolved,
    (((resolveDescriptor_blanks _ _ _ _).2 "app").2 added).1.accepted project resolved⟩

/-- An output that would have no source is accepted with an empty base file. -/
theorem not_asAbsent_emptyBaseFile :
    BaseFileChanges "app" none (some (.string "")) (searchingSample [] [])
        (searchingSample [] [(Tag.baseFile, .string "")]) ∧
      (resolveDescriptor ⟨[], []⟩ (Path.ofString "proj") (searchingSample [] [])).outcome =
        .error (noSourcesProblem "app") ∧
      (resolveDescriptor ⟨[], []⟩ (Path.ofString "proj")
          (searchingSample [] [(Tag.baseFile, .string "")])).outcome.map Project.outputs =
        .ok [⟨"app", .executable "bin", ["."], []⟩] :=
  ⟨(baseFileChanges_searchingSample [] "" "").1, rfl, rfl⟩

end Listfile
