import Listfile.FileTree.Basic

set_option autoImplicit false

/-! Where paths lead. A path is followed segment by segment from the root directory or the working
directory; a link is replaced by the segments of its target, and one lookup follows a limited number
of links. An empty or `.` segment stays, but only in a directory. A path, as it is written, and every
name in it have a greatest length; the targets of links count by their names only. -/

namespace Listfile.FileTree

inductive Step where
  | place (location : Location)
  | detour (target : Path)
  | absent (location : Location)

def checkDirectory (tree : FileTree) (here : Location) : Except FileFault Unit :=
  match tree.entryAt here with
  | some .directory => .ok ()
  | some _ => .error .notDirectory
  | none => .error .notFound

def greatestNameLength : Nat := 255

def stepFrom (tree : FileTree) (here : Location) (segment : Name) : Except FileFault Step :=
  if segment = [] ∨ segment = Name.current then .ok (.place here)
  else if segment = Name.parent then .ok (.place here.dropLast)
  else if segment.bytes.length > greatestNameLength then .error .nameTooLong
  else
    match tree.entryAt (here ++ [segment]) with
    | some (.link target) => .ok (.detour target)
    | some _ => .ok (.place (here ++ [segment]))
    | none => .ok (.absent (here ++ [segment]))

/-- One segment, seen from a location that is no link. -/
def step (tree : FileTree) (here : Location) (segment : Name) : Except FileFault Step :=
  match tree.checkDirectory here with
  | .ok () => tree.stepFrom here segment
  | .error fault => .error fault

/-- Where a path begins that is written in the directory `base`. -/
def origin (base : Location) (path : Path) : Location := if path.isAbsolute then [] else base

/-- The end of a lookup, and how many links it could still have followed. -/
structure Arrival where
  location : Location
  budget : Nat
  deriving DecidableEq, Repr

def follow (tree : FileTree) (budget : Nat) (here : Location) (segments : List Name) : Except FileFault Arrival :=
  match segments with
  | [] => .ok ⟨here, budget⟩
  | segment :: rest =>
    match tree.step here segment with
    | .error fault => .error fault
    | .ok (.place next) => tree.follow budget next rest
    | .ok (.absent _) => .error .notFound
    | .ok (.detour target) =>
      match budget with
      | 0 => .error .tooManyLinks
      | left + 1 => tree.follow left (origin here target) (target.segments ++ rest)
  termination_by (budget, segments.length)

/-- How many links one lookup follows. -/
def linkBudget : Nat := 40

def greatestPathLength : Nat := 4095

/-- Whether a path can be looked up, whatever the tree holds: it has no NUL, is not empty and not too long. -/
def checkPath (path : Path) : Except FileFault Unit :=
  if path.units.contains (.char '\x00') then .error .nulInPath
  else if path.units.isEmpty then .error .notFound
  else if path.byteCount > greatestPathLength then .error .nameTooLong
  else .ok ()

def lookup (tree : FileTree) (path : Path) : Except FileFault Arrival :=
  match checkPath path with
  | .ok () => tree.follow linkBudget (origin tree.workingDirectory path) path.segments
  | .error fault => .error fault

def entry? (tree : FileTree) (path : Path) : Option Entry :=
  match tree.lookup path with
  | .ok arrival => tree.entryAt arrival.location
  | .error _ => none

def isDirectory (tree : FileTree) (path : Path) : Bool :=
  match tree.entry? path with
  | some .directory => true
  | _ => false

def readText (tree : FileTree) (path : Path) : Except FileFault String :=
  match tree.lookup path with
  | .error fault => .error fault
  | .ok arrival =>
    match tree.entryAt arrival.location with
    | some (.file (.text characters)) => .ok characters
    | some (.file (.binary _)) => .error .notText
    | some .directory => .error .isDirectory
    | _ => .error .notFound

end Listfile.FileTree
