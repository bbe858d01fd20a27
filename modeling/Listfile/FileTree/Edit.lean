import Listfile.FileTree.Lookup

set_option autoImplicit false

/-! Changing a file tree: writing a file, making directories and links, removing. A file is written where
its path leads, through links, and is created if only its last segment is missing. A path that ends in
a slash names no file. -/

namespace Listfile.FileTree

/-- The location of the file that would be written at some segments: an existing file, or a free place
in an existing directory. -/
def writingPlace (tree : FileTree) (budget : Nat) (here : Location) (segments : List Name) :
    Except FileFault Location :=
  match segments with
  | [] => .error .isDirectory
  | segment :: rest =>
    match tree.checkDirectory here with
    | .error fault => .error fault
    | .ok () =>
      if rest ≠ [] ∧ rest.all (·.isEmpty) then
        .error .isDirectory
      else
        match tree.stepFrom here segment with
        | .error fault => .error fault
        | .ok (.place next) =>
          if rest = [] then
            match tree.entryAt next with
            | some (.file _) => .ok next
            | _ => .error .isDirectory
          else
            tree.writingPlace budget next rest
        | .ok (.absent next) => if rest = [] then .ok next else .error .notFound
        | .ok (.detour target) =>
          match budget with
          | 0 => .error .tooManyLinks
          | left + 1 => tree.writingPlace left (origin here target) (target.segments ++ rest)
  termination_by (budget, segments.length)

def writingPlaceOf (tree : FileTree) (path : Path) : Except FileFault Location :=
  match checkPath path with
  | .ok () => tree.writingPlace linkBudget (origin tree.workingDirectory path) path.segments
  | .error fault => .error fault

def write (tree : FileTree) (path : Path) (content : Content) : Except FileFault FileTree :=
  match tree.writingPlaceOf path with
  | .ok location => .ok (tree.set location (.file content))
  | .error fault => .error fault

/-- Opens the file at a path for writing: it is empty from then on, and created if it is missing. -/
def openFile (tree : FileTree) (path : Path) : Except FileFault (Location × FileTree) :=
  match tree.writingPlaceOf path with
  | .ok location => .ok (location, tree.set location (.file (.text "")))
  | .error fault => .error fault

def makeDirectoriesAt (tree : FileTree) (budget : Nat) (here : Location) (segments : List Name) :
    Except FileFault (FileTree × Location) :=
  match segments with
  | [] => .ok (tree, here)
  | segment :: rest =>
    match tree.step here segment with
    | .error fault => .error fault
    | .ok (.place next) => tree.makeDirectoriesAt budget next rest
    | .ok (.absent next) => (tree.set next .directory).makeDirectoriesAt budget next rest
    | .ok (.detour target) =>
      match budget with
      | 0 => .error .tooManyLinks
      | left + 1 => tree.makeDirectoriesAt left (origin here target) (target.segments ++ rest)
  termination_by (budget, segments.length)

def makeDirectories (tree : FileTree) (path : Path) : Except FileFault (FileTree × Location) :=
  tree.makeDirectoriesAt linkBudget (origin tree.workingDirectory path) path.segments

/-- The directories on the way to the last segment of a path, made if necessary, and that segment. -/
def makeParents (tree : FileTree) (path : Path) : Except FileFault (FileTree × Location × Name) :=
  match tree.makeDirectoriesAt linkBudget (origin tree.workingDirectory path) path.segments.dropLast with
  | .ok (grown, parent) => .ok (grown, parent, path.segments.getLastD [])
  | .error fault => .error fault

def putFile (tree : FileTree) (path : Path) (content : Content) : Except FileFault FileTree :=
  match tree.makeParents path with
  | .ok (grown, _) => grown.write path content
  | .error fault => .error fault

def putDirectory (tree : FileTree) (path : Path) : Except FileFault FileTree :=
  match tree.makeDirectories path with
  | .ok (grown, _) => .ok grown
  | .error fault => .error fault

def putLink (tree : FileTree) (path target : Path) : Except FileFault FileTree :=
  match tree.makeParents path with
  | .ok (grown, parent, name) => .ok (grown.set (parent ++ [name]) (.link target))
  | .error fault => .error fault

/-- Removes what stands at a path, a link itself and a directory with all in it. -/
def remove (tree : FileTree) (path : Path) : FileTree :=
  match checkPath path with
  | .error _ => tree
  | .ok () =>
    match tree.follow linkBudget (origin tree.workingDirectory path) path.segments.dropLast with
    | .ok arrival => tree.erase (arrival.location ++ [path.segments.getLastD []])
    | .error _ => tree

end Listfile.FileTree
