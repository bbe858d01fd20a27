import Listfile.Descriptor.Discovery
import Listfile.Descriptor.Fields
import Listfile.Descriptor.Tags

set_option autoImplicit false

/-! Where a descriptor makes its resolution search, known before anything is resolved. An entry of the wrong
form names no place: resolution ends there and does not search it. -/

namespace Listfile

def Json.membersUnder (value : Json) (tag : String) : List (String × Json) :=
  match value with
  | .object members =>
    match member? members tag with
    | some (.object inner) => inner
    | _ => []
  | _ => []

def Json.stringsUnder (value : Json) (tag : String) : List String :=
  match value with
  | .object members =>
    match member? members tag with
    | some (.array items) => items.filterMap text?
    | _ => []
  | _ => []

def libraryDirectory (root : Path) (library : Json) : Path :=
  match library with
  | .object members =>
    match Json.member? members Tag.rootDirectory with
    | some (.string directory) => root.join (Path.ofString directory)
    | _ => root
  | _ => root

def outputSearchTags : List String := [Tag.sourceDirectories, Tag.headerDirectories, Tag.searchedIncludeDirectories]

def outputSearchPlaces (root : Path) (output : Json) : List Path :=
  (outputSearchTags.flatMap output.stringsUnder).map (searchStart root)

def librarySearchPlaces (root : Path) (library : Json) : List Path :=
  (library.stringsUnder Tag.searchedIncludeDirectories).map (searchStart (libraryDirectory root library))

/-- Every place where the resolution of a descriptor may begin a walk. -/
def searchPlaces (root : Path) (descriptor : Json) : List Path :=
  ((descriptor.membersUnder Tag.output).flatMap fun member => outputSearchPlaces root member.2) ++
    (descriptor.membersUnder Tag.importedLibraries).flatMap fun member => librarySearchPlaces root member.2

end Listfile
