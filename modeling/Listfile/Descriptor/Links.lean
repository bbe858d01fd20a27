import Listfile.Attempt
import Listfile.Descriptor.Fields
import Listfile.Project.Names

set_option autoImplicit false

/-! Names and links across entries. Names must differ by more than letter case; link names refer to outputs
first and to libraries second; an output that links a library with include directories gets references
to the variables of that library. -/

namespace Listfile

/-- The first name whose lower case is that of an earlier one. `earlier` holds the names before, with
their lower case. -/
def firstClash (earlier : List (String × String)) : List (String × String) → Option Problem
  | [] => none
  | (name, field) :: names =>
    match earlier.lookup (Text.lowercase name) with
    | some previous => some (.duplicateName name previous field)
    | none => firstClash ((Text.lowercase name, name) :: earlier) names

def entryNames (outputs : List OutputUnit) (libraries : List ImportedLibrary) : List (String × String) :=
  outputs.map (fun unit => (unit.name, Tag.output)) ++
    libraries.map (fun library => (library.name, Tag.importedLibraries))

def checkNames (outputs : List OutputUnit) (libraries : List ImportedLibrary) : Except Problem Unit :=
  match firstClash [] (entryNames outputs libraries) with
  | some problem => .error problem
  | none => .ok ()

def resolveLink (outputs : List OutputUnit) (libraries : List ImportedLibrary) (name : String) :
    Except Problem LinkReference :=
  match outputs.find? (·.name = name) with
  | some unit => .ok (.ofOutput unit)
  | none =>
    match libraries.find? (·.name = name) with
    | some library => .ok (.ofImported library)
    | none => .error (.unknownReference name Tag.linkLibraries "\"output\" nor \"imported_libs\"")

def readLinkEdge (outputs : List OutputUnit) (libraries : List ImportedLibrary)
    (members : List (String × Json)) (source : String) (value : Json) : Except Problem LinkEdge := do
  if outputs.any (·.name = source) then
    let names ← Fields.asTexts ⟨members, some Tag.linkLibraries⟩ source value
    let targets ← names.mapM (resolveLink outputs libraries)
    return ⟨source, orderedUnion [] targets⟩
  else
    .error (.unknownReference source Tag.linkLibraries "\"output\"")

def readLinkEdges (top : Fields) (outputs : List OutputUnit) (libraries : List ImportedLibrary) :
    Except Problem (List LinkEdge) := do
  let members ← top.optionalObject Tag.linkLibraries
  members.mapM fun member => readLinkEdge outputs libraries members member.1 member.2

/-- The library that a reference adds to an output that links it. -/
def addedLibrary? (libraries : List ImportedLibrary) : LinkReference → Option ImportedLibrary
  | .output _ => none
  | .imported name _ =>
    (libraries.find? (·.name = name)).bind fun library =>
      if library.includeDirectories.isEmpty then none else some library

def OutputUnit.pickUp (unit : OutputUnit) (library : ImportedLibrary) : OutputUnit :=
  { unit with
    sources := insertNew unit.sources (variableReference library.headerVariable)
    includeDirectories := insertNew unit.includeDirectories (variableReference library.includeVariable) }

/-- Changes the first output that has the name. -/
def changeOutput (name : String) (change : OutputUnit → OutputUnit) : List OutputUnit → List OutputUnit
  | [] => []
  | unit :: units => if unit.name = name then change unit :: units else unit :: changeOutput name change units

/-- The output of an edge picks up one library after the other. -/
def augmentAlong (libraries : List ImportedLibrary) (units : List OutputUnit) (edge : LinkEdge) : List OutputUnit :=
  changeOutput edge.source (fun unit => (edge.targets.filterMap (addedLibrary? libraries)).foldl OutputUnit.pickUp unit)
    units

def augmentOutputs (libraries : List ImportedLibrary) (edges : List LinkEdge) (units : List OutputUnit) :
    List OutputUnit :=
  edges.foldl (augmentAlong libraries) units

def augmentationLog (libraries : List ImportedLibrary) (edges : List LinkEdge) : List LogRecord :=
  edges.flatMap fun edge => (edge.targets.filterMap (addedLibrary? libraries)).map fun library =>
    .debug ("output \"" ++ edge.source ++ "\" picks up include directories of \"" ++ library.name ++ "\"")

end Listfile
