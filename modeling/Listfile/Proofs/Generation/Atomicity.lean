import Listfile.Proofs.FileTree.Creation
import Listfile.Proofs.Path.Bytes
import Listfile.Proofs.Script.Delivery

set_option autoImplicit false

/-! A run writes the whole listfile or nothing. Every problem of a descriptor, and every reason why the file cannot be
created, is met before the file is opened. Afterwards nothing can fail, and the file holds the bytes of the
text that would have been returned instead. -/

namespace Listfile

open Script (FitsWithin keptWithin textBytes)

namespace Project

theorem deliveryWithin_eq (room : Option Nat) (project : Project) :
    (project.deliveryWithin room).sink.received = keptWithin room (textBytes project.script) ∧
      (project.deliveryWithin room).outcome =
        if FitsWithin room (textBytes project.script) then .ok () else .error .full := by
  obtain ⟨sameSink, sameOutcome⟩ := Script.Sink.perform_offered room [] (.project project)
  rw [Script.Sink.offered_nil, List.nil_append, Script.Call.bytes_project] at sameSink sameOutcome
  rw [deliveryWithin, sameSink, sameOutcome]
  constructor
  · rfl
  · by_cases fits : FitsWithin room (textBytes project.script)
    · rw [if_pos (Or.inr fits), if_pos fits]
    · rw [if_neg fun silentOrFits => fits (Script.fitsWithin_of_eq_nil_or silentOrFits), if_neg fits]

theorem delivery_eq (project : Project) :
    project.delivery.sink.received = textBytes project.script ∧ project.delivery.outcome = .ok () := by
  obtain ⟨received, arrived⟩ := project.deliveryWithin_eq none
  rw [if_pos (Script.fitsWithin_none _)] at arrived
  rw [delivery, received, arrived]
  exact ⟨rfl, rfl⟩

theorem delivery_log (project : Project) : project.delivery.log = project.scriptLog := by
  have arrived := project.delivery_eq.2
  rw [delivery, deliveryWithin] at arrived ⊢
  exact Script.Sink.perform_log arrived

end Project

theorem generateText_outcome (tree : FileTree) (root : Path) :
    (generateText tree root).outcome = (resolve tree root).outcome.map Project.script := by
  rw [generateText, Attempt.outcome_bind]
  cases (resolve tree root).outcome with
  | error reason => rfl
  | ok project => exact congrArg Except.ok ((congrArg lossyText project.delivery_eq.1).trans (lossyText_textBytes _))

namespace Generation

theorem createWithin_of_ok {tree : FileTree} {path : Path} {place : Location}
    (creatable : tree.writingPlaceOf path = .ok place) (room : Option Nat) (project : Project) :
    (createWithin room tree path project).tree =
        tree.set place (.file (Content.ofBytes (keptWithin room (textBytes project.script)))) ∧
      (createWithin room tree path project).attempt.outcome =
        if FitsWithin room (textBytes project.script) then .ok path else .error (.notWritten path) := by
  obtain ⟨received, outcome⟩ := project.deliveryWithin_eq room
  rw [createWithin, FileTree.openFile, creatable]
  dsimp only
  rw [fill, outcome, received, FileTree.set_set]
  by_cases fits : FitsWithin room (textBytes project.script)
  · rw [if_pos fits, if_pos fits]
    exact ⟨rfl, rfl⟩
  · rw [if_neg fits, if_neg fits]
    exact ⟨rfl, rfl⟩

theorem createWithin_none {tree : FileTree} {path : Path} {place : Location}
    (creatable : tree.writingPlaceOf path = .ok place) (project : Project) :
    createWithin none tree path project = ⟨⟨project.scriptLog ++ [.info ("wrote " ++ path.display)], .ok path⟩,
      tree.set place (.file (.text project.script))⟩ := by
  obtain ⟨received, arrived⟩ := project.delivery_eq
  have given : project.deliveryWithin none = project.delivery := rfl
  rw [createWithin, FileTree.openFile, creatable]
  dsimp only
  rw [given, fill, arrived, received, project.delivery_log, Content.ofBytes_textBytes, FileTree.set_set]

/-- A run that finds too little room leaves the beginning of the listfile and says that it is not whole. -/
theorem runWithin_written {tree : FileTree} {root : Path} {project : Project} {place : Location}
    (resolved : (resolve tree root).outcome = .ok project)
    (creatable : tree.writingPlaceOf (listfilePath root) = .ok place) (room : Option Nat) :
    (runWithin room tree root).tree =
        tree.set place (.file (Content.ofBytes (keptWithin room (textBytes project.script)))) ∧
      (runWithin room tree root).attempt.outcome =
        if FitsWithin room (textBytes project.script) then .ok (listfilePath root)
        else .error (.notWritten (listfilePath root)) := by
  rw [runWithin, resolved]
  exact createWithin_of_ok creatable room project

theorem run_of_error {tree : FileTree} {root : Path} {reason : Problem}
    (unresolved : (resolve tree root).outcome = .error reason) :
    run tree root = (failed tree (.unresolved reason)).afterLog (resolve tree root).log := by
  rw [run, runWithin, unresolved]

section

variable {tree : FileTree} {root : Path} {project : Project} (resolved : (resolve tree root).outcome = .ok project)

include resolved

theorem run_of_refused {fault : FileFault} (refused : tree.writingPlaceOf (listfilePath root) = .error fault) :
    run tree root = (failed tree (.notCreated (listfilePath root) fault)).afterLog (resolve tree root).log := by
  rw [run, runWithin, resolved]
  dsimp only
  rw [createWithin, FileTree.openFile, refused]

theorem run_of_creatable {place : Location} (creatable : tree.writingPlaceOf (listfilePath root) = .ok place) :
    run tree root =
      ⟨⟨(resolve tree root).log ++ (project.scriptLog ++ [.info ("wrote " ++ (listfilePath root).display)]),
        .ok (listfilePath root)⟩, tree.set place (.file (.text project.script))⟩ := by
  rw [run, runWithin, resolved]
  dsimp only
  rw [createWithin_none creatable]
  rfl

end

end Generation

/-- The file of a path was written, at some place, and nothing else was. -/
structure FileTree.Wrote (before after : FileTree) (path : Path) (place : Location) (text : String) : Prop where
  /-- Nothing was there before, or a file, whatever it held. -/
  free : before.FreeForFile place
  /-- Links on the way and at the end are followed. -/
  denoted : ∃ left, after.lookup path = .ok ⟨place, left⟩
  denotedBefore : ∀ content, before.entryAt place = some (.file content) → ∃ left, before.lookup path = .ok ⟨place, left⟩
  holds : after.entryAt place = some (.file (.text text))
  elsewhere : ∀ other, other ≠ place → after.entryAt other = before.entryAt other
  workingDirectory : after.workingDirectory = before.workingDirectory

theorem FileTree.wrote_set {tree : FileTree} {path : Path} {place : Location}
    (creatable : tree.writingPlaceOf path = .ok place) (text : String) :
    tree.Wrote (tree.set place (.file (.text text))) path place text where
  free := free_of_writingPlaceOf creatable
  denoted := lookup_of_writingPlaceOf (.text text) creatable
  denotedBefore := fun _content isFile => lookup_of_writingPlaceOf_file creatable isFile
  holds := (free_of_writingPlaceOf creatable).entryAt_set _
  elsewhere := fun _other apart => entryAt_set_of_ne apart _
  workingDirectory := rfl

/-- What a run does: it fails as the resolution does, or because the file cannot be created, and then it changes
nothing; or it writes the text of the project. -/
def AllOrNothing (tree : FileTree) (root : Path) : Prop :=
  match (resolve tree root).outcome with
  | .error reason =>
    (generate tree root).outcome = .error (.unresolved reason) ∧ (Generation.run tree root).tree = tree ∧
      (generateText tree root).outcome = .error reason
  | .ok _project =>
    match tree.writingPlaceOf (listfilePath root) with
    | .error fault =>
      (generate tree root).outcome = .error (.notCreated (listfilePath root) fault) ∧
        (Generation.run tree root).tree = tree
    | .ok place =>
      ∃ text, (generateText tree root).outcome = .ok text ∧
        (generate tree root).outcome = .ok ⟨listfilePath root, (Generation.run tree root).tree⟩ ∧
        tree.Wrote (Generation.run tree root).tree (listfilePath root) place text

theorem generate_allOrNothing (tree : FileTree) (root : Path) : AllOrNothing tree root := by
  have asText := generateText_outcome tree root
  rw [AllOrNothing, generate]
  cases resolution : (resolve tree root).outcome with
  | error reason =>
      rw [resolution] at asText
      rw [Generation.run_of_error resolution]
      exact ⟨rfl, rfl, asText⟩
  | ok project =>
      rw [resolution] at asText
      dsimp only
      cases creatable : tree.writingPlaceOf (listfilePath root) with
      | error fault =>
          rw [Generation.run_of_refused resolution creatable]
          exact ⟨rfl, rfl⟩
      | ok place =>
          rw [Generation.run_of_creatable resolution creatable]
          exact ⟨project.script, asText, rfl, FileTree.wrote_set creatable project.script⟩

end Listfile
