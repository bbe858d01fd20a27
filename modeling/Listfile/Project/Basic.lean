import Listfile.Path.Basic

set_option autoImplicit false

/-! A resolved project: what it builds, which prebuilt libraries it uses, what links to what, and in
which configurations it is built. All paths but the root are texts as they are written in the listfile. -/

namespace Listfile

inductive Linkage where
  | static
  | shared
  deriving DecidableEq, Repr

inductive OutputKind where
  | executable (directory : String)
  | library (linkage : Linkage) (archiveDirectory libraryDirectory : String)
  deriving DecidableEq, Repr

/-- One artifact compiled from the project's own sources. Sources and include directories are paths
relative to the project, or references to variables of linked libraries. -/
structure OutputUnit where
  name : String
  kind : OutputKind
  sources : List String
  includeDirectories : List String
  deriving DecidableEq, Repr

def OutputUnit.isExecutable (unit : OutputUnit) : Bool :=
  match unit.kind with
  | .executable _ => true
  | .library .. => false

/-- A prebuilt library. Its files are paths without the prefix and suffix that a platform adds. -/
structure ImportedLibrary where
  name : String
  linkage : Linkage
  rootDirectory : String
  files : List String
  includeDirectories : List String
  headerFiles : List String
  deriving DecidableEq, Repr

inductive LinkReference where
  | output (name : String)
  | imported (name : String) (fileCount : Nat)
  deriving DecidableEq, Repr

namespace LinkReference

def ofOutput (unit : OutputUnit) : LinkReference := .output unit.name

def ofImported (library : ImportedLibrary) : LinkReference := .imported library.name library.files.length

def name : LinkReference → String
  | .output name => name
  | .imported name _ => name

@[simp] theorem name_ofOutput (unit : OutputUnit) : (ofOutput unit).name = unit.name := rfl

@[simp] theorem name_ofImported (library : ImportedLibrary) : (ofImported library).name = library.name := rfl

end LinkReference

structure LinkEdge where
  source : String
  targets : List LinkReference
  deriving DecidableEq, Repr

structure BuildTarget where
  name : String
  cFlags : List String
  cppFlags : List String
  deriving DecidableEq, Repr

structure LanguageStandards where
  declared : String
  allowed : List String
  deriving DecidableEq, Repr

def LanguageStandards.active (standards : LanguageStandards) : String :=
  if standards.declared ≠ "" ∧ standards.declared ∈ standards.allowed then standards.declared
  else standards.allowed.headD ""

structure ProjectInfo where
  name : String
  minimumVersion : String
  path : Path
  deriving DecidableEq, Repr

structure Project where
  info : ProjectInfo
  cStandards : LanguageStandards
  cppStandards : LanguageStandards
  targets : List BuildTarget
  defaultTarget : Option String
  outputs : List OutputUnit
  importedLibraries : List ImportedLibrary
  linkEdges : List LinkEdge
  deriving DecidableEq, Repr

namespace Project

def initialTarget (project : Project) : Option String :=
  match project.defaultTarget with
  | some name => some name
  | none => project.targets.head?.map BuildTarget.name

def output? (project : Project) (name : String) : Option OutputUnit :=
  project.outputs.find? fun unit => unit.name = name

def importedLibrary? (project : Project) (name : String) : Option ImportedLibrary :=
  project.importedLibraries.find? fun library => library.name = name

end Project

end Listfile
