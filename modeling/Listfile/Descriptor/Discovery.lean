import Listfile.FileTree.Walk
import Listfile.Log
import Listfile.Path.ScriptPath

set_option autoImplicit false

/-! Finding files and directories below search directories. A search directory is relative to a base; what
is found is written relative to the project root, each path once, in the order of the walks. What is
found and what is logged are separate functions of the file tree. -/

namespace Listfile

def searchStart (base : Path) (directory : String) : Path := base.join (Path.ofString directory)

def hasSuffix (path : Path) (suffixes : List String) : Bool :=
  match path.extension? with
  | some suffix => suffixes.contains suffix
  | none => false

namespace FileTree

def Visit.file? : Visit → Option Path
  | .file path => some path
  | _ => none

def Visit.directory? : Visit → Option Path
  | .directory path => some path
  | _ => none

def Visit.complaint? : Visit → Option String
  | .unreadable path fault => some ("IO error for operation on " ++ path.display ++ ": " ++ fault.message)
  | .loop path ancestor =>
    some ("File system loop found: " ++ path.display ++ " points to an ancestor " ++ ancestor.display)
  | _ => none

def filesFrom (tree : FileTree) (root start : Path) (suffixes : List String) : List String :=
  (((tree.walk start).filterMap Visit.file?).filter (hasSuffix · suffixes)).map (scriptPath · root)

def directoriesFrom (tree : FileTree) (root start : Path) : List String :=
  ((tree.walk start).filterMap Visit.directory?).map (scriptPath · root)

def findFiles (tree : FileTree) (root base : Path) (searchDirectories suffixes : List String) : List String :=
  orderedUnion [] (searchDirectories.flatMap fun directory => tree.filesFrom root (searchStart base directory) suffixes)

def findDirectories (tree : FileTree) (root base : Path) (searchDirectories : List String) : List String :=
  orderedUnion [] (searchDirectories.flatMap fun directory => tree.directoriesFrom root (searchStart base directory))

/-- The warnings of one search: that there is no such directory, and what could not be visited below it. -/
def searchWarnings (tree : FileTree) (start : Path) : List LogRecord :=
  (if tree.isDirectory start then []
    else [.warning ("Search directory does not exist: \"" ++ start.display ++ "\"")]) ++
    ((tree.walk start).filterMap Visit.complaint?).map
      fun complaint => .warning ("Skipping unreadable entry: " ++ complaint)

def searchLog (tree : FileTree) (base : Path) (searchDirectories : List String) (kind : String)
    (found : List String) : List LogRecord :=
  (searchDirectories.flatMap fun directory => tree.searchWarnings (searchStart base directory)) ++
    [.debug ("found " ++ Nat.repr found.length ++ " " ++ kind ++ " under [" ++
      ", ".intercalate searchDirectories ++ "]")]

end FileTree

end Listfile
