import Listfile.Path.ScriptPath
import Listfile.Project.Names

set_option autoImplicit false

/-! How values are written as arguments of statements: quoted texts, entries of lists, and directories
below the build directory. -/

namespace Listfile.Script

def escape (character : Char) : List Char :=
  if character = '\\' ∨ character = '"' then ['\\', character] else [character]

def quote (text : String) : String := "\"" ++ String.ofList (text.toList.flatMap escape) ++ "\""

/-- Variable references and absolute paths stand for themselves; any other entry is relative to the
source directory of the project. -/
def qualify (entry : String) : String :=
  if isVariableReference entry || isAbsoluteEntry entry then entry
  else variableReference "PROJECT_SOURCE_DIR" ++ "/" ++ entry

def trimSlashes (characters : List Char) : List Char :=
  ((characters.dropWhile (· = '/')).reverse.dropWhile (· = '/')).reverse

def buildTypeVariable : String := "CMAKE_BUILD_TYPE"

def buildDirectory (directory : String) : String :=
  let inner := trimSlashes (normalizeSeparators directory).toList
  variableReference "CMAKE_BINARY_DIR" ++ "/" ++
    (if inner = [] then "" else String.ofList inner ++ "/") ++ variableReference buildTypeVariable

def buildTypeIs (configuration : String) : String :=
  quote (variableReference buildTypeVariable) ++ " STREQUAL " ++ quote configuration

end Listfile.Script
