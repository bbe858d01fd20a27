import Listfile.Descriptor.Resolution
import Listfile.Descriptor.SearchPlaces
import Listfile.Generation

set_option autoImplicit false

/-! The disk. What a run may look at is read into a file tree before the run, and the listfile that the run has
written to the tree is written to the disk after it. Only files that are read get their text. -/

namespace Listfile.Disk

def pathOf (location : Location) : String := "/" ++ "/".intercalate (location.map Name.shown)

def locationOf (path : String) : Location := (Path.ofString path).segments.filter (· ≠ [])

/-- Where a link leads in the end: to a place that is no link, to no place at all, or back to itself. -/
def targetOf (link : IO.FS.DirEntry) : IO Path := do
  match ← (IO.FS.realPath link.path).toBaseIO, ← link.path.metadata.toBaseIO with
  | .ok place, _ => return Path.ofString place.toString
  | .error _, .error (.noFileOrDirectory ..) => return Path.ofString "\x00"
  | .error _, _ => return Path.ofString link.path.toString

/-- Adds what stands at a location. Files are added without their text. -/
def add (tree : FileTree) (location : Location) : IO FileTree := do
  if (tree.entryAt location).isSome then return tree
  let place : IO.FS.DirEntry := ⟨pathOf location.dropLast, (location.getLastD []).shown⟩
  match ← place.path.symlinkMetadata.toBaseIO with
  | .error _ => return tree
  | .ok status =>
    match status.type with
    | .dir => return tree.set location .directory
    | .symlink => return tree.set location (.link (← targetOf place))
    | .file => return tree.set location (.file (.text ""))
    | .other => return tree

def isEntryName (segment : Name) : Bool :=
  segment ≠ [] && segment ≠ Name.current && segment ≠ Name.parent

/-- Adds what lies on the way along some segments. The location is the end of the way, if there is one. -/
def addAlong (tree : FileTree) (budget : Nat) (here : Location) (segments : List Name) :
    IO (FileTree × Option Location) := do
  match segments with
  | [] => return (tree, some here)
  | segment :: rest =>
    let grown ← if isEntryName segment then add tree (here ++ [segment]) else pure tree
    match grown.step here segment with
    | .error _ | .ok (.absent _) => return (grown, none)
    | .ok (.place next) => addAlong grown budget next rest
    | .ok (.detour target) =>
      match budget with
      | 0 => return (grown, none)
      | left + 1 => addAlong grown left (FileTree.origin here target) (target.segments ++ rest)
  termination_by (budget, segments.length)

def addPath (tree : FileTree) (path : Path) : IO (FileTree × Option Location) :=
  addAlong tree FileTree.linkBudget (FileTree.origin tree.workingDirectory path) path.segments

/-- Adds what lies below a directory, through links. The directories in `known` are there already. -/
partial def addBelow (tree : FileTree) (known : List Location) (directory : Location) :
    IO (FileTree × List Location) := do
  if directory ∈ known ∨ tree.entryAt directory ≠ some .directory then return (tree, known)
  let mut grown := tree
  let mut found := directory :: known
  for entry in ← (← IO.FS.realPath (pathOf directory)).readDir do
    let name := Name.ofString entry.fileName
    let (reached, place) ← addAlong grown FileTree.linkBudget directory [name]
    grown := reached
    if let (some location, false) := (place, name.isHidden) then
      (grown, found) ← addBelow grown found location
  return (grown, found)

def addSearchPlaces (tree : FileTree) (places : List Path) : IO FileTree := do
  let mut grown := tree
  let mut found := []
  for place in places do
    let (reached, location) ← addPath grown place
    grown := reached
    if let some directory := location then
      (grown, found) ← addBelow grown found directory
  return grown

def addDescriptor (tree : FileTree) (root : Path) : IO FileTree := do
  let (grown, place) ← addPath tree (descriptorPath root)
  match place.map fun location => (location, grown.entryAt location) with
  | some (location, some (.file _)) =>
    let bytes ← IO.FS.readBinFile (pathOf location)
    return grown.set location (.file (Content.ofBytes bytes.toList))
  | _ => return grown

/-- The part of the disk that a run in `root` may look at. -/
def read (root : Path) : IO FileTree := do
  let here := locationOf (← IO.FS.realPath ".").toString
  let (bare, _) ← addAlong ⟨[], here⟩ FileTree.linkBudget [] here
  let (withRoot, _) ← addPath bare root
  let (withListfile, _) ← addPath withRoot (listfilePath root)
  let tree ← addDescriptor withListfile root
  match loadDescriptor tree root with
  | .ok descriptor => addSearchPlaces tree (searchPlaces root descriptor)
  | .error _ => return tree

def explanation : IO.Error → String
  | .alreadyExists _ code details | .interrupted _ code details | .noFileOrDirectory _ code details
  | .invalidArgument _ code details | .permissionDenied _ code details | .resourceExhausted _ code details
  | .inappropriateType _ code details | .noSuchThing _ code details | .otherError code details
  | .resourceBusy code details | .resourceVanished code details | .unsupportedOperation code details
  | .hardwareFault code details | .unsatisfiedConstraints code details | .illegalOperation code details
  | .protocolError code details | .timeExpired code details => details ++ " (os error " ++ code.toNat.repr ++ ")"
  | .unexpectedEof => "unexpected end of file"
  | .userError message => message

/-- Writes the listfile of a tree to the disk. The error is what a run prints instead. -/
def writeBack (root : Path) (tree : FileTree) : IO (Except String Unit) := do
  let path := listfilePath root
  match tree.readText path with
  | .error _ => return .ok ()
  | .ok text =>
    match ← (IO.FS.Handle.mk path.display .write).toBaseIO with
    | .error fault => return .error (creatingMessage path (explanation fault))
    | .ok file =>
      match ← (do file.putStr text; file.flush : IO Unit).toBaseIO with
      | .error fault => return .error (writingMessage path (explanation fault))
      | .ok () => return .ok ()

end Listfile.Disk
