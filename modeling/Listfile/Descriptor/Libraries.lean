import Listfile.Attempt
import Listfile.Descriptor.Discovery
import Listfile.Descriptor.Fields
import Listfile.Descriptor.Reasons
import Listfile.Text.Case

set_option autoImplicit false

/-! Reading imported libraries. All paths of a library are relative to its own directory, and are written
relative to the project root. -/

namespace Listfile

def readLinkage (fields : Fields) : Except Problem Linkage := do
  let word ← fields.requireText Tag.kind (some Reason.importedKind)
  let folded := Text.lowercase word
  if folded = Linkage.static.word then return .static
  else if folded = Linkage.shared.word then return .shared
  else .error (fields.invalid Tag.kind word linkageWords)

def libraryPaths (root libraryRoot : Path) (paths : List String) : List String :=
  paths.map fun path => scriptPath (libraryRoot.join (Path.ofString path)) root

def ImportedLibrary.summary (library : ImportedLibrary) : LogRecord :=
  .debug ("imported library \"" ++ library.name ++ "\": " ++ Nat.repr library.files.length ++ " files, " ++
    Nat.repr library.includeDirectories.length ++ " include dirs, " ++ Nat.repr library.headerFiles.length ++
    " headers")

def readLibraryFields (tree : FileTree) (root : Path) (name : String) (fields : Fields) :
    Attempt Problem ImportedLibrary := do
  let linkage ← readLinkage fields
  let rootDirectory ← fields.requireText Tag.rootDirectory (some Reason.rootDirectory)
  let libraryRoot := root.join (Path.ofString rootDirectory)
  let files ← fields.requireTexts Tag.libraryFiles (some Reason.libraryFiles)
  if files.isEmpty then
    Attempt.fail (fields.empty Tag.libraryFiles Reason.libraryFiles)
  else
    let searched ← fields.requireTexts Tag.searchedIncludeDirectories (some Reason.importedIncludeDirectories)
    let directories := tree.findDirectories root libraryRoot searched
    Attempt.note (tree.searchLog libraryRoot searched "directories" directories)
    let headers := tree.findFiles root libraryRoot searched headerSuffixes
    Attempt.note (tree.searchLog libraryRoot searched "files" headers)
    let literalDirectories ← fields.optionalTexts Tag.includeDirectories
    let literalHeaders ← fields.optionalTexts Tag.headerFiles
    let library : ImportedLibrary :=
      { name := name
        linkage := linkage
        rootDirectory := scriptPath libraryRoot root
        files := orderedUnion [] (libraryPaths root libraryRoot files)
        includeDirectories := orderedUnion directories (libraryPaths root libraryRoot literalDirectories)
        headerFiles := orderedUnion headers (libraryPaths root libraryRoot literalHeaders) }
    Attempt.note [library.summary]
    return library

def readLibrary (tree : FileTree) (root : Path) (name : String) (value : Json) :
    Attempt Problem ImportedLibrary := do
  let fields ← Fields.ofEntry Tag.importedLibraries name value
  readLibraryFields tree root name fields

def readLibraries (tree : FileTree) (root : Path) (top : Fields) : Attempt Problem (List ImportedLibrary) := do
  let members ← top.optionalObject Tag.importedLibraries
  members.mapM fun member => readLibrary tree root member.1 member.2

end Listfile
