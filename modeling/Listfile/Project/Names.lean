import Listfile.Project.Basic
import Listfile.Text.Case

set_option autoImplicit false

/-! The names that entities of a project have in its listfile. Outputs and variables are named in upper
case with a suffix for their role; the units of an imported library are named in lower case and
numbered by file. -/

namespace Listfile

open Text (uppercase lowercase capitalize)

def outputIdentifier (name : String) : String := uppercase name ++ "_CMAKE_OUTPUT"

def sourcesVariable (name : String) : String := uppercase name ++ "_SOURCES"

def includeVariable (name : String) : String := uppercase name ++ "_INCLUDE_DIRS"

def headerVariable (name : String) : String := uppercase name ++ "_HEADER_FILES"

def importedIdentifier (name : String) : String := lowercase name

def withIndex (name : String) (index : Nat) : String := name ++ "_" ++ Nat.repr index

def importedIdentifiers (name : String) (fileCount : Nat) : List String :=
  (List.range fileCount).map (withIndex (importedIdentifier name))

def variableReference (name : String) : String := "$\x7b" ++ name ++ "\x7d"

/-- Whether an entry is one variable reference with something in it. -/
def isVariableReference (entry : String) : Bool :=
  decide (3 < entry.toList.length) && ['$', '\x7b'].isPrefixOf entry.toList &&
    entry.toList.getLast? == some '\x7d'

def isAbsoluteEntry (entry : String) : Bool := entry.toList.head? == some '/'

namespace OutputUnit

def identifier (unit : OutputUnit) : String := outputIdentifier unit.name

def sourcesVariable (unit : OutputUnit) : String := Listfile.sourcesVariable unit.name

end OutputUnit

namespace ImportedLibrary

def identifiers (library : ImportedLibrary) : List String :=
  importedIdentifiers library.name library.files.length

def includeVariable (library : ImportedLibrary) : String := Listfile.includeVariable library.name

def headerVariable (library : ImportedLibrary) : String := Listfile.headerVariable library.name

end ImportedLibrary

def Linkage.keyword : Linkage → String
  | .static => "STATIC"
  | .shared => "SHARED"

def LinkReference.linkNames : LinkReference → List String
  | .output name => [outputIdentifier name]
  | .imported name fileCount => importedIdentifiers name fileCount

/-- The value of the build type that selects a configuration. -/
def BuildTarget.configurationName (target : BuildTarget) : String := capitalize target.name

end Listfile
