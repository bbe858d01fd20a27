import Listfile.Descriptor.SearchPlaces
import Listfile.Project.Document
import Listfile.Project.Names

set_option autoImplicit false

/-! The schema of descriptors, said without the readers: which fields an object must have, which it may have, and
of which shape their values are. A field that may be there may also be null. Fields that the schema does not
name do not count, and neither does the order of the members of one object. -/

namespace Listfile.Schema

def IsText (value : Json) : Prop := ∃ text, value = .string text

def IsScalar (value : Json) : Prop := (∃ text, value = .string text) ∨ ∃ number, value = .number number

def IsListOf (item : Json → Prop) (value : Json) : Prop := ∃ items, value = .array items ∧ ∀ entry ∈ items, item entry

def IsFilledListOf (item : Json → Prop) (value : Json) : Prop :=
  ∃ items, value = .array items ∧ items ≠ [] ∧ ∀ entry ∈ items, item entry

def IsWordOf (words : List String) (value : Json) : Prop := ∃ word, value = .string word ∧ Text.lowercase word ∈ words

def IsObjectOf (shape : List (String × Json) → Prop) (value : Json) : Prop :=
  ∃ members, value = .object members ∧ shape members

def IsMapOf (entry : Json → Prop) : Json → Prop := IsObjectOf fun members => ∀ member ∈ members, entry member.2

def IsFilledMapOf (entry : Json → Prop) : Json → Prop :=
  IsObjectOf fun members => members ≠ [] ∧ ∀ member ∈ members, entry member.2

def Required (members : List (String × Json)) (tag : String) (shape : Json → Prop) : Prop :=
  ∃ value, Json.member? members tag = some value ∧ shape value

def Optional (members : List (String × Json)) (tag : String) (shape : Json → Prop) : Prop :=
  ∀ value, Json.member? members tag = some value → value = .null ∨ shape value

def names (members : List (String × Json)) (tag : String) : List String :=
  ((Json.object members).membersUnder tag).map Prod.fst

structure IsTarget (members : List (String × Json)) : Prop where
  cFlags : Required members Tag.cFlags (IsListOf IsText)
  cppFlags : Required members Tag.cppFlags (IsListOf IsText)

def LeadsToFile (tree : FileTree) (root : Path) (suffixes : List String) (value : Json) : Prop :=
  ∃ directories : List String, value = .array (directories.map .string) ∧ ∃ directory ∈ directories,
    ∃ path, .file path ∈ tree.walk (searchStart root directory) ∧ hasSuffix path suffixes = true

structure IsOutput (tree : FileTree) (root : Path) (members : List (String × Json)) : Prop where
  kind : Required members Tag.kind (IsWordOf ["executable", "static_lib", "shared_lib"])
  baseFile : Optional members Tag.baseFile IsText
  sourceDirectories : Required members Tag.sourceDirectories (IsListOf IsText)
  headerDirectories : Required members Tag.headerDirectories (IsListOf IsText)
  searchedIncludeDirectories : Required members Tag.searchedIncludeDirectories (IsListOf IsText)
  includeDirectories : Optional members Tag.includeDirectories (IsListOf IsText)
  executableDirectory : Required members Tag.kind (IsWordOf ["executable"]) →
    Required members Tag.executableDirectory IsText
  archiveDirectory : Required members Tag.kind (IsWordOf ["static_lib", "shared_lib"]) →
    Required members Tag.archiveDirectory IsText
  libraryDirectory : Required members Tag.kind (IsWordOf ["static_lib", "shared_lib"]) →
    Required members Tag.libraryDirectory IsText
  sources : Required members Tag.baseFile IsText ∨
    Required members Tag.sourceDirectories (LeadsToFile tree root sourceSuffixes) ∨
    Required members Tag.headerDirectories (LeadsToFile tree root headerSuffixes)

structure IsLibrary (members : List (String × Json)) : Prop where
  kind : Required members Tag.kind (IsWordOf ["static", "shared"])
  rootDirectory : Required members Tag.rootDirectory IsText
  files : Required members Tag.libraryFiles (IsFilledListOf IsText)
  searchedIncludeDirectories : Required members Tag.searchedIncludeDirectories (IsListOf IsText)
  includeDirectories : Optional members Tag.includeDirectories (IsListOf IsText)
  headerFiles : Optional members Tag.headerFiles (IsListOf IsText)

structure IsLink (outputs libraries : List String) (link : String × Json) : Prop where
  source : link.1 ∈ outputs
  targets : IsListOf (fun item => ∃ name, item = .string name ∧ (name ∈ outputs ∨ name ∈ libraries)) link.2

structure IsDescriptor (tree : FileTree) (root : Path) (members : List (String × Json)) : Prop where
  minimumVersion : Required members Tag.minimumVersion IsText
  projectName : Required members Tag.projectName IsText
  defaultCStandard : Optional members Tag.defaultCStandard IsScalar
  defaultCppStandard : Optional members Tag.defaultCppStandard IsScalar
  allowedCStandards : Required members Tag.allowedCStandards (IsFilledListOf IsScalar)
  allowedCppStandards : Required members Tag.allowedCppStandards (IsFilledListOf IsScalar)
  targets : Required members Tag.targets (IsFilledMapOf (IsObjectOf IsTarget))
  defaultTarget : Optional members Tag.defaultTarget fun value =>
    ∃ name, value = .string name ∧ (name = "" ∨ name ∈ names members Tag.targets)
  outputs : Required members Tag.output (IsFilledMapOf (IsObjectOf (IsOutput tree root)))
  libraries : Optional members Tag.importedLibraries (IsMapOf (IsObjectOf IsLibrary))
  /-- Letter case does not keep two entries apart. -/
  distinctNames : ((names members Tag.output ++ names members Tag.importedLibraries).map Text.lowercase).Nodup
  links : Optional members Tag.linkLibraries (IsObjectOf fun links =>
    ∀ link ∈ links, IsLink (names members Tag.output) (names members Tag.importedLibraries) link)

def targetEntry (cFlags cppFlags : List String) : Json :=
  .object [(Tag.cFlags, .texts cFlags), (Tag.cppFlags, .texts cppFlags)]

def executableEntry (file : String) : Json :=
  .object [(Tag.kind, .string "executable"), (Tag.baseFile, .string file), (Tag.sourceDirectories, .texts []),
    (Tag.headerDirectories, .texts []), (Tag.searchedIncludeDirectories, .texts []),
    (Tag.executableDirectory, .string "bin")]

def libraryEntry (directory : String) (files includeDirectories : List String) : Json :=
  .object [(Tag.kind, .string "static"), (Tag.rootDirectory, .string directory), (Tag.libraryFiles, .texts files),
    (Tag.searchedIncludeDirectories, .texts []), (Tag.includeDirectories, .texts includeDirectories)]

def descriptorOf (targets outputs libraries links : List (String × Json)) : Json :=
  .object [(Tag.minimumVersion, .string "3.20"), (Tag.projectName, .string "demo"),
    (Tag.allowedCStandards, .texts ["11"]), (Tag.allowedCppStandards, .texts ["17"]),
    (Tag.targets, .object targets), (Tag.output, .object outputs), (Tag.importedLibraries, .object libraries),
    (Tag.linkLibraries, .object links)]

end Listfile.Schema
