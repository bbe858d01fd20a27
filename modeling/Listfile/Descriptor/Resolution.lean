import Listfile.Descriptor.Configurations
import Listfile.Descriptor.Libraries
import Listfile.Descriptor.Links
import Listfile.Descriptor.Outputs
import Listfile.Json.Parser

set_option autoImplicit false

/-! From a project root to its project. The root must be a directory whose path is text; the descriptor in
it is read and resolved from top to bottom, and the first problem ends the resolution. Every entry is
resolved on its own before names and links are checked across entries. -/

namespace Listfile

def checkRoot (tree : FileTree) (root : Path) : Except Problem Unit :=
  if root.isText = false then .error (.invalidRoot root "path is not valid UTF-8")
  else if tree.isDirectory root = false then .error (.invalidRoot root "not a directory")
  else .ok ()

def descriptorPath (root : Path) : Path := root.join (Path.ofString descriptorFile)

def loadDescriptor (tree : FileTree) (root : Path) : Except Problem Json :=
  match tree.readText (descriptorPath root) with
  | .error .notFound => .error (.notFound (descriptorPath root))
  | .error fault => .error (.unreadable (descriptorPath root) fault)
  | .ok text =>
    match Json.parse text with
    | .ok value => .ok value
    | .error error => .error (.malformed (descriptorPath root) error)

def topFields : Json → Except Problem Fields
  | .object members => .ok ⟨members, none⟩
  | _ => .error (.wrongType descriptorFile none "a JSON object at the top level")

def readInfo (root : Path) (top : Fields) : Except Problem ProjectInfo := do
  let minimumVersion ← top.requireText Tag.minimumVersion none
  let name ← top.requireText Tag.projectName none
  return ⟨name, minimumVersion, root⟩

def Project.summary (project : Project) : LogRecord :=
  .info ("resolved " ++ Nat.repr project.outputs.length ++ " outputs, " ++
    Nat.repr project.importedLibraries.length ++ " imported libraries, " ++
    Nat.repr project.linkEdges.length ++ " link entries, " ++ Nat.repr project.targets.length ++ " targets")

/-- The project that a descriptor describes. Relative directories are searched below the root. -/
def resolveDescriptor (tree : FileTree) (root : Path) (descriptor : Json) : Attempt Problem Project := do
  let top ← topFields descriptor
  let info ← readInfo root top
  Attempt.note [.debug ("resolving project \"" ++ info.name ++ "\" in " ++ root.display)]
  let cppDefault ← top.optionalScalar Tag.defaultCppStandard
  let cDefault ← top.optionalScalar Tag.defaultCStandard
  let cppStandards ← readStandards top Tag.allowedCppStandards (cppDefault.getD "")
  let cStandards ← readStandards top Tag.allowedCStandards (cDefault.getD "")
  let targets ← readTargets top
  let defaultTarget ← readDefaultTarget top targets
  let outputs ← readOutputs tree root top
  let libraries ← readLibraries tree root top
  checkNames outputs libraries
  let edges ← readLinkEdges top outputs libraries
  Attempt.note (augmentationLog libraries edges)
  let project : Project :=
    { info := info
      cStandards := cStandards
      cppStandards := cppStandards
      targets := targets
      defaultTarget := defaultTarget
      outputs := augmentOutputs libraries edges outputs
      importedLibraries := libraries
      linkEdges := edges }
  Attempt.note [project.summary]
  return project

def resolve (tree : FileTree) (root : Path) : Attempt Problem Project := do
  checkRoot tree root
  let descriptor ← loadDescriptor tree root
  resolveDescriptor tree root descriptor

end Listfile
