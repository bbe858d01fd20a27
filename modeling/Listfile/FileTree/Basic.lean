import Listfile.OrderedUnion
import Listfile.Path.Bytes

set_option autoImplicit false

/-! File trees as values: which files, directories and symbolic links exist, by their location below the
root directory. A location is a list of names, so it never holds a link or a `..`. The first entry of
a location counts, and the root directory always exists. -/

namespace Listfile

abbrev Location := List Name

/-- What a file holds: a text, or bytes that are no text. -/
inductive Content where
  | text (characters : String)
  | binary (bytes : List UInt8)
  deriving DecidableEq, Repr

def Content.ofBytes (bytes : List UInt8) : Content :=
  match Name.text? (PathUnit.ofBytes bytes) with
  | some characters => .text characters
  | none => .binary bytes

inductive Entry where
  | file (content : Content)
  | directory
  | link (target : Path)
  deriving DecidableEq, Repr

inductive FileFault where
  | notFound
  | notDirectory
  | isDirectory
  | nameTooLong
  | tooManyLinks
  | nulInPath
  | notText
  deriving DecidableEq, Repr

def FileFault.message : FileFault → String
  | .notFound => "No such file or directory (os error 2)"
  | .notDirectory => "Not a directory (os error 20)"
  | .isDirectory => "Is a directory (os error 21)"
  | .nameTooLong => "File name too long (os error 36)"
  | .tooManyLinks => "Too many levels of symbolic links (os error 40)"
  | .nulInPath => "file name contained an unexpected NUL byte"
  | .notText => "stream did not contain valid UTF-8"

structure FileTree where
  entries : List (Location × Entry)
  workingDirectory : Location
  deriving DecidableEq, Repr

namespace FileTree

def entryAt (tree : FileTree) (location : Location) : Option Entry :=
  if location = [] then some .directory else tree.entries.lookup location

/-- The name of `location` inside `directory`, if it lies directly in it. -/
def nameIn? (directory location : Location) : Option Name :=
  match directory.isPrefixOf? location with
  | some [name] => some name
  | _ => none

def nameBefore (left right : Name) : Bool := decide (left.bytes ≤ right.bytes)

def names (tree : FileTree) (directory : Location) : List Name :=
  (orderedUnion [] (tree.entries.filterMap fun entry => nameIn? directory entry.1)).mergeSort nameBefore

def setEntry (location : Location) (entry : Entry) : List (Location × Entry) → List (Location × Entry)
  | [] => [(location, entry)]
  | (other, previous) :: entries =>
    if other = location then (location, entry) :: entries
    else (other, previous) :: setEntry location entry entries

def set (tree : FileTree) (location : Location) (entry : Entry) : FileTree :=
  { tree with entries := setEntry location entry tree.entries }

def erase (tree : FileTree) (location : Location) : FileTree :=
  { tree with entries := tree.entries.filter fun entry => !location.isPrefixOf entry.1 }

end FileTree

end Listfile
