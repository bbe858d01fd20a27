import Listfile.Descriptor.Tags
import Listfile.Json.Basic

set_option autoImplicit false

/-! A resolved project as a JSON value, with its fields in a fixed order. -/

namespace Listfile

namespace Json

def texts (items : List String) : Json := .array (items.map .string)

def count (value : Nat) : Json := .number (.integer value)

end Json

def ProjectInfo.toJson (info : ProjectInfo) : Json :=
  .object [("name", .string info.name), ("min_cmake_version", .string info.minimumVersion),
    ("path", .string info.path.display)]

def LanguageStandards.toJson (standards : LanguageStandards) : Json :=
  .object [("default", .string standards.declared), ("allowed", .texts standards.allowed)]

def BuildTarget.toJson (target : BuildTarget) : Json :=
  .object [("name", .string target.name), ("c_flags", .texts target.cFlags), ("cpp_flags", .texts target.cppFlags)]

def OutputKind.toJson : OutputKind → Json
  | .executable directory => .object [("type", .string "executable"), ("output_dir", .string directory)]
  | .library linkage archiveDirectory libraryDirectory =>
    .object [("type", .string "library"), ("linkage", .string linkage.word),
      ("archive_dir", .string archiveDirectory), ("library_dir", .string libraryDirectory)]

def OutputUnit.toJson (unit : OutputUnit) : Json :=
  .object [("name", .string unit.name), ("kind", unit.kind.toJson), ("sources", .texts unit.sources),
    ("include_dirs", .texts unit.includeDirectories)]

def ImportedLibrary.toJson (library : ImportedLibrary) : Json :=
  .object [("name", .string library.name), ("linkage", .string library.linkage.word),
    ("root_dir", .string library.rootDirectory), ("lib_files", .texts library.files),
    ("include_dirs", .texts library.includeDirectories), ("header_files", .texts library.headerFiles)]

def LinkReference.toJson : LinkReference → Json
  | .output name => .object [("kind", .string "output"), ("name", .string name)]
  | .imported name fileCount =>
    .object [("kind", .string "imported"), ("name", .string name), ("file_count", .count fileCount)]

def LinkEdge.toJson (edge : LinkEdge) : Json :=
  .object [("source", .string edge.source), ("targets", .array (edge.targets.map LinkReference.toJson))]

def Project.toJson (project : Project) : Json :=
  .object [("info", project.info.toJson), ("c_standards", project.cStandards.toJson),
    ("cpp_standards", project.cppStandards.toJson), ("targets", .array (project.targets.map BuildTarget.toJson)),
    ("default_target", match project.defaultTarget with
      | some name => .string name
      | none => .null),
    ("outputs", .array (project.outputs.map OutputUnit.toJson)),
    ("imported_libraries", .array (project.importedLibraries.map ImportedLibrary.toJson)),
    ("link_edges", .array (project.linkEdges.map LinkEdge.toJson))]

/-- The document of a project, for writing it down. A path that is no text cannot be written. -/
def Project.document (project : Project) : Except String Json :=
  if project.info.path.isText then .ok project.toJson else .error "path contains invalid UTF-8 characters"

end Listfile
