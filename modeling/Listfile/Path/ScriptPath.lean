import Listfile.Path.Components

set_option autoImplicit false

/-! How paths are written in a listfile: relative to the project root when they lie under it, with
forward slashes and without `.` components. The project root itself is written `.`. -/

namespace Listfile

def normalizeSeparator (character : Char) : Char := if character = '\\' then '/' else character

def normalizeSeparators (text : String) : String := String.ofList (text.toList.map normalizeSeparator)

namespace Component

/-- Appends a piece, after a slash unless the text is empty or ends in one. -/
def appendPiece (written piece : List Char) : List Char :=
  (if written = [] ∨ written.getLast? = some '/' then written else written ++ ['/']) ++ piece

def appendTo (written : List Char) : Component → List Char
  | .root => written ++ ['/']
  | .current => written
  | .parent => appendPiece written ['.', '.']
  | .normal name => appendPiece written (name.map fun unit => normalizeSeparator unit.shown)

def written (components : List Component) : List Char := components.foldl appendTo []

end Component

/-- The form of `path` in the listfile of the project in `root`. -/
def scriptPath (path root : Path) : String :=
  let text := Component.written ((path.componentsAfter? root).getD path.components)
  if text = [] then "." else String.ofList text

end Listfile
