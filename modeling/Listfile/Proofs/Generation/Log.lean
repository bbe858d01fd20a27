import Listfile.Generation
import Listfile.Proofs.Outcomes

set_option autoImplicit false

/-! What a run logs. A problem ends the run and is its outcome, so it is no record of the log: nothing that a run logs is
an error, whether the run succeeds or not. -/

namespace Listfile

namespace LogRecord

theorem atLeast_append (least : Severity) (first second : List LogRecord) :
    atLeast least (first ++ second) = atLeast least first ++ atLeast least second :=
  List.filter_append ..

def NoErrors (records : List LogRecord) : Prop := atLeast .error records = []

theorem noErrors_iff (records : List LogRecord) : NoErrors records ↔ ∀ record ∈ records, record.severity ≠ .error := by
  rw [NoErrors, atLeast, List.filter_eq_nil_iff]
  apply forall_congr'
  intro record
  apply forall_congr'
  intro _member
  cases record.severity <;> decide

namespace NoErrors

theorem append {first second : List LogRecord} (noFirst : NoErrors first) (noSecond : NoErrors second) :
    NoErrors (first ++ second) := by
  rw [NoErrors, atLeast_append, noFirst, noSecond, List.append_nil]

theorem flatMap {α : Type} {items : List α} {records : α → List LogRecord} (each : ∀ item, NoErrors (records item)) :
    NoErrors (items.flatMap records) := by
  induction items with
  | nil => rfl
  | cons item items ih => exact (each item).append ih

theorem map {α : Type} {items : List α} {record : α → LogRecord} (each : ∀ item, (record item).severity ≠ .error) :
    NoErrors (items.map record) := by
  rw [noErrors_iff, List.forall_mem_map]
  exact fun item _member => each item

end NoErrors

end LogRecord

open LogRecord (NoErrors)

namespace Attempt

variable {ε α β : Type}

theorem noErrors_bind {first : Attempt ε α} {next : α → Attempt ε β} (noFirst : NoErrors first.log)
    (noNext : ∀ value, NoErrors (next value).log) : NoErrors (first >>= next).log := by
  show NoErrors (first.andThen next).log
  rw [andThen]
  cases first.outcome with
  | error problem => exact noFirst
  | ok value => exact noFirst.append (noNext value)

theorem noErrors_lift (outcome : Except ε α) : NoErrors (liftM outcome : Attempt ε α).log := rfl

theorem noErrors_note {records : List LogRecord} (none : NoErrors records) :
    NoErrors (note records : Attempt ε Unit).log := none

theorem noErrors_mapM {step : α → Attempt ε β} (each : ∀ item, NoErrors (step item).log) (items : List α) :
    NoErrors (items.mapM step).log := by
  induction items with
  | nil => rfl
  | cons item items ih =>
      rw [List.mapM_cons]
      exact noErrors_bind (each item) fun _result => noErrors_bind ih fun _results => rfl

end Attempt

section

open Attempt

variable (tree : FileTree) (root : Path)

theorem noErrors_searchLog (base : Path) (searched : List String) (kind : String) (found : List String) :
    NoErrors (tree.searchLog base searched kind found) := by
  have warnings : ∀ start, NoErrors (tree.searchWarnings start) := by
    intro start
    rw [FileTree.searchWarnings]
    apply NoErrors.append
    · split <;> rfl
    · exact NoErrors.map fun _complaint => nofun
  exact (NoErrors.flatMap fun directory => warnings _).append rfl

theorem noErrors_readStandards (top : Fields) (tag declared : String) :
    NoErrors (readStandards top tag declared).log := by
  apply noErrors_bind (noErrors_lift _)
  intro allowed
  split
  · rfl
  · have warned : NoErrors (LanguageStandards.warnings ⟨declared, allowed⟩ tag) := by
      rw [LanguageStandards.warnings]
      split <;> rfl
    exact noErrors_bind (noErrors_note warned) fun _warned => rfl

theorem noErrors_readOutput (name : String) (value : Json) : NoErrors (readOutput tree root name value).log := by
  apply noErrors_bind (noErrors_lift _)
  intro fields
  apply noErrors_bind (noErrors_lift _)
  intro linkage
  apply noErrors_bind (noErrors_lift _)
  intro baseFile
  apply noErrors_bind (noErrors_lift _)
  intro sourceDirectories
  apply noErrors_bind (noErrors_note (noErrors_searchLog ..))
  intro _sourcesLogged
  apply noErrors_bind (noErrors_lift _)
  intro headerDirectories
  apply noErrors_bind (noErrors_note (noErrors_searchLog ..))
  intro _headersLogged
  dsimp only
  split
  · rfl
  · apply noErrors_bind (noErrors_lift _)
    intro searched
    apply noErrors_bind (noErrors_note (noErrors_searchLog ..))
    intro _directoriesLogged
    apply noErrors_bind (noErrors_lift _)
    intro literal
    exact noErrors_bind (noErrors_lift _) fun _kind => rfl

theorem noErrors_readOutputs (top : Fields) : NoErrors (readOutputs tree root top).log := by
  apply noErrors_bind (noErrors_lift _)
  intro members
  split
  · rfl
  · exact noErrors_mapM (fun _member => noErrors_readOutput ..) members

theorem noErrors_readLibrary (name : String) (value : Json) : NoErrors (readLibrary tree root name value).log := by
  apply noErrors_bind (noErrors_lift _)
  intro fields
  apply noErrors_bind (noErrors_lift _)
  intro linkage
  apply noErrors_bind (noErrors_lift _)
  intro rootDirectory
  apply noErrors_bind (noErrors_lift _)
  intro files
  split
  · rfl
  · apply noErrors_bind (noErrors_lift _)
    intro searched
    apply noErrors_bind (noErrors_note (noErrors_searchLog ..))
    intro _directoriesLogged
    apply noErrors_bind (noErrors_note (noErrors_searchLog ..))
    intro _headersLogged
    apply noErrors_bind (noErrors_lift _)
    intro literalDirectories
    exact noErrors_bind (noErrors_lift _) fun _literalHeaders => rfl

theorem noErrors_readLibraries (top : Fields) : NoErrors (readLibraries tree root top).log := by
  apply noErrors_bind (noErrors_lift _)
  intro members
  exact noErrors_mapM (fun _member => noErrors_readLibrary ..) members

theorem noErrors_augmentationLog (libraries : List ImportedLibrary) (edges : List LinkEdge) :
    NoErrors (augmentationLog libraries edges) :=
  NoErrors.flatMap fun _edge => NoErrors.map fun _library => nofun

theorem noErrors_resolveDescriptor (descriptor : Json) : NoErrors (resolveDescriptor tree root descriptor).log := by
  apply noErrors_bind (noErrors_lift _)
  intro top
  apply noErrors_bind (noErrors_lift _)
  intro info
  refine noErrors_bind (noErrors_note rfl) ?_
  intro _logged
  apply noErrors_bind (noErrors_lift _)
  intro cppDefault
  apply noErrors_bind (noErrors_lift _)
  intro cDefault
  apply noErrors_bind (noErrors_readStandards ..)
  intro cppStandards
  apply noErrors_bind (noErrors_readStandards ..)
  intro cStandards
  apply noErrors_bind (noErrors_lift _)
  intro targets
  apply noErrors_bind (noErrors_lift _)
  intro defaultTarget
  apply noErrors_bind (noErrors_readOutputs ..)
  intro outputs
  apply noErrors_bind (noErrors_readLibraries ..)
  intro libraries
  apply noErrors_bind (noErrors_lift _)
  intro _checked
  apply noErrors_bind (noErrors_lift _)
  intro edges
  exact noErrors_bind (noErrors_note (noErrors_augmentationLog libraries edges)) fun _augmented => rfl

theorem noErrors_resolve : NoErrors (resolve tree root).log := by
  apply noErrors_bind (noErrors_lift _)
  intro _checked
  apply noErrors_bind (noErrors_lift _)
  intro descriptor
  exact noErrors_resolveDescriptor tree root descriptor

end

namespace Generation

theorem noErrors_writeParts (sink : Script.Sink) (parts : List Script.Part) :
    NoErrors (sink.writeParts parts).2.2 := by
  have announced : ∀ part : Script.Part, NoErrors part.announcement := by
    intro part
    cases part <;> rfl
  induction parts generalizing sink with
  | nil => rfl
  | cons part parts ih =>
      rw [Script.Sink.writeParts]
      cases sink.writeLines part.lines with
      | mk after outcome =>
          cases outcome with
          | ok _done => exact (announced part).append (ih after)
          | error fault => exact announced part

theorem noErrors_runWithin (room : Option Nat) (tree : FileTree) (root : Path) :
    NoErrors (runWithin room tree root).attempt.log := by
  have resolving := noErrors_resolve tree root
  rw [runWithin]
  cases (resolve tree root).outcome with
  | error reason => exact resolving.append rfl
  | ok project =>
      apply resolving.append
      rw [createWithin]
      cases tree.openFile (listfilePath root) with
      | error fault => rfl
      | ok opening =>
          have writing : NoErrors (project.deliveryWithin room).log := noErrors_writeParts _ project.parts
          dsimp only
          rw [fill]
          split
          · exact writing.append rfl
          · exact writing.append rfl

/-- Whatever becomes of a run, its records are warnings and notes of what it did. -/
theorem label_of_mem_log (room : Option Nat) (tree : FileTree) (root : Path) :
    ∀ record ∈ (runWithin room tree root).attempt.log, record.severity.label ∈ ["WARN", "INFO", "DEBUG"] := by
  intro record member
  have noError := (LogRecord.noErrors_iff _).1 (noErrors_runWithin room tree root) record member
  cases severity : record.severity with
  | error => exact absurd severity noError
  | warning => decide
  | info => decide
  | debug => decide

end Generation

end Listfile
