import Listfile.Descriptor.Resolution
import Listfile.FileTree.Edit
import Listfile.Script.Sink

set_option autoImplicit false

/-! Generating the listfile of a project: as a text, or as a file next to the descriptor. The file is opened once the
project is resolved, and opening empties it; the listfile is then written from the top, as far as there is room for it.
The text is what a sink in memory receives, read back with replacement characters for what is no text. -/

namespace Listfile

inductive GenerationError where
  | unresolved (reason : Problem)
  | notCreated (path : Path) (fault : FileFault)
  | notWritten (path : Path)

def creatingMessage (path : Path) (cause : String) : String := "Error creating " ++ path.display ++ ": " ++ cause

def writingMessage (path : Path) (cause : String) : String := "Error writing to " ++ path.display ++ ": " ++ cause

/-- The message with the messages of its causes behind it. Writing fails only for want of room. -/
def GenerationError.fullMessage : GenerationError → String
  | .unresolved reason =>
    match reason.cause with
    | some cause => reason.message ++ ": " ++ cause
    | none => reason.message
  | .notCreated path fault => creatingMessage path fault.message
  | .notWritten path => writingMessage path "No space left on device (os error 28)"

def listfilePath (root : Path) : Path := root.join (Path.ofString listfileName)

def Project.deliveryWithin (room : Option Nat) (project : Project) : Script.CallResult :=
  (Script.Sink.empty room).perform (.project project)

def Project.delivery (project : Project) : Script.CallResult := project.deliveryWithin none

def lossyText (bytes : List UInt8) : String := Name.shown (PathUnit.ofBytes bytes)

/-- The listfile as a text. Memory takes every byte, so only the resolution can fail. -/
def generateText (tree : FileTree) (root : Path) : Attempt Problem String := do
  let project ← resolve tree root
  Attempt.note project.delivery.log
  return lossyText project.delivery.sink.received

/-- A run that was to write a listfile: what became of it, and the tree that it leaves in either case. -/
structure Generation where
  attempt : Attempt GenerationError Path
  tree : FileTree

namespace Generation

def failed (tree : FileTree) (error : GenerationError) : Generation := ⟨Attempt.fail error, tree⟩

def afterLog (log : List LogRecord) (generation : Generation) : Generation :=
  ⟨⟨log ++ generation.attempt.log, generation.attempt.outcome⟩, generation.tree⟩

/-- Keeps in an open file what was delivered to it, also if not all of it was. -/
def fill (tree : FileTree) (path : Path) (place : Location) (delivery : Script.CallResult) : Generation :=
  let filled := tree.set place (.file (Content.ofBytes delivery.sink.received))
  match delivery.outcome with
  | .error .full => (failed filled (.notWritten path)).afterLog delivery.log
  | .ok () => ⟨⟨delivery.log ++ [.info ("wrote " ++ path.display)], .ok path⟩, filled⟩

/-- Writes a project to the file at a path, which takes no more bytes than there is room for. -/
def createWithin (room : Option Nat) (tree : FileTree) (path : Path) (project : Project) : Generation :=
  match tree.openFile path with
  | .error fault => failed tree (.notCreated path fault)
  | .ok (place, opened) => fill opened path place (project.deliveryWithin room)

def runWithin (room : Option Nat) (tree : FileTree) (root : Path) : Generation :=
  let resolution := resolve tree root
  match resolution.outcome with
  | .error reason => (failed tree (.unresolved reason)).afterLog resolution.log
  | .ok project => (createWithin room tree (listfilePath root) project).afterLog resolution.log

def run (tree : FileTree) (root : Path) : Generation := runWithin none tree root

end Generation

structure Generated where
  path : Path
  tree : FileTree

def generate (tree : FileTree) (root : Path) : Attempt GenerationError Generated :=
  let generation := Generation.run tree root
  ⟨generation.attempt.log, generation.attempt.outcome.map fun path => ⟨path, generation.tree⟩⟩

end Listfile
