import Listfile.Path.Basic

set_option autoImplicit false

/-! The components of a path: what remains when repeated separators and needless `.` segments are left
out. A `.` counts only at the front of a relative path, and `..` is kept. Prefixes are compared by
components, never by text. -/

namespace Listfile

inductive Component where
  | root
  | current
  | parent
  | normal (name : Name)
  deriving DecidableEq, Repr

/-- An empty segment and a `.` stand for no component. -/
def Component.ofSegment? (segment : Name) : Option Component :=
  if segment = [] ∨ segment = Name.current then none
  else if segment = Name.parent then some .parent
  else some (.normal segment)

namespace Path

def leadingComponents (path : Path) : List Component :=
  if path.isAbsolute then [.root]
  else if path.segments.head? = some Name.current then [.current]
  else []

def components (path : Path) : List Component :=
  path.leadingComponents ++ path.segments.filterMap Component.ofSegment?

/-- The components after those of `base`, if the path begins with all of them. -/
def componentsAfter? (path base : Path) : Option (List Component) :=
  base.components.isPrefixOf? path.components

def fileName? (path : Path) : Option Name :=
  match path.components.getLast? with
  | some (.normal name) => some name
  | _ => none

def extension? (path : Path) : Option String :=
  path.fileName?.bind fun name => name.extension?.bind Name.text?

end Path

end Listfile
