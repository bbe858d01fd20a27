import Listfile.Descriptor.Tags
import Listfile.FileTree.Basic
import Listfile.Json.SyntaxError

set_option autoImplicit false

/-! What can be wrong with a project: its root, the descriptor file, or the content of the descriptor. A
problem with the content names the tag at fault and, below the top level, the entry that holds it. -/

namespace Listfile

inductive Problem where
  | notFound (path : Path)
  | unreadable (path : Path) (fault : FileFault)
  | malformed (path : Path) (error : Json.SyntaxError)
  | invalidRoot (path : Path) (reason : String)
  | missingField (field : String) (parent reason : Option String)
  | wrongType (field : String) (parent : Option String) (expected : String)
  | invalidValue (field : String) (parent : Option String) (value : String) (allowed : List String)
  | emptyField (field : String) (parent : Option String) (reason : String)
  | unknownReference (name field expectedIn : String)
  | duplicateName (name previous field : String)
  deriving DecidableEq, Repr

namespace Problem

def field : Problem → Option String
  | .missingField field _ _ => some field
  | .wrongType field _ _ => some field
  | .invalidValue field _ _ _ => some field
  | .emptyField field _ _ => some field
  | .unknownReference _ field _ => some field
  | .duplicateName _ _ field => some field
  | _ => none

def parent : Problem → Option String
  | .missingField _ parent _ => parent
  | .wrongType _ parent _ => parent
  | .invalidValue _ parent _ _ => parent
  | .emptyField _ parent _ => parent
  | _ => none

/-- Whether the content of the descriptor is at fault, not the reading of it. -/
def isSchemaProblem (problem : Problem) : Bool := problem.field.isSome

def cause : Problem → Option String
  | .unreadable _ fault => some fault.message
  | .malformed _ error => some error.message
  | _ => none

def qualifiedField (field : String) : Option String → String
  | some parent => parent ++ "." ++ field
  | none => field

def placement : Option String → String
  | some parent => "Please add it inside its parent tag \"" ++ parent ++ "\"."
  | none => "Please add it to the file."

def message : Problem → String
  | .notFound path => descriptorFile ++ " not found: " ++ path.display
  | .unreadable path fault => "Error reading " ++ path.display ++ ": " ++ fault.message
  | .malformed path error => "Error parsing " ++ path.display ++ ": " ++ error.message
  | .invalidRoot path reason => "Invalid project root \"" ++ path.display ++ "\": " ++ reason
  | .missingField field parent reason =>
    "Tag \"" ++ field ++ "\" missing in " ++ descriptorFile ++ ". " ++ placement parent ++
      (match reason with
        | some reason => "\n" ++ reason
        | none => "")
  | .wrongType field parent expected =>
    "Tag \"" ++ qualifiedField field parent ++ "\" in " ++ descriptorFile ++ " has the wrong type. Expected " ++
      expected ++ "."
  | .invalidValue field parent value allowed =>
    "Tag \"" ++ qualifiedField field parent ++ "\" in " ++ descriptorFile ++ " has invalid value \"" ++ value ++
      "\". Options: " ++ ", ".intercalate (allowed.map fun option => "\"" ++ option ++ "\"")
  | .emptyField field parent reason =>
    "Tag \"" ++ qualifiedField field parent ++ "\" in " ++ descriptorFile ++ " must not be empty.\n" ++ reason
  | .unknownReference name field expectedIn =>
    "\"" ++ name ++ "\" tag in \"" ++ field ++ "\" not found in " ++ expectedIn ++
      ". Make sure your names match."
  | .duplicateName name previous field =>
    "\"" ++ name ++ "\" in \"" ++ field ++ "\" clashes with \"" ++ previous ++
      "\". Output and imported library names must differ by more than letter case."

end Problem

end Listfile
