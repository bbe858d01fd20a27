import Listfile.Attempt
import Listfile.Descriptor.Discovery
import Listfile.Descriptor.Fields
import Listfile.Descriptor.Reasons
import Listfile.Text.Case

set_option autoImplicit false

/-! Reading outputs. The kind is checked first and the output directories last; in between the sources and
include directories are collected, from the base file, the search directories and the literal list. -/

namespace Listfile

/-- The linkage of a library, or none for an executable. Letter case does not count. -/
def readOutputKindWord (fields : Fields) : Except Problem (Option Linkage) := do
  let word ← fields.requireText Tag.kind (some Reason.outputKind)
  let folded := Text.lowercase word
  if folded = "executable" then return none
  else if folded = "static_lib" then return some .static
  else if folded = "shared_lib" then return some .shared
  else .error (fields.invalid Tag.kind word outputWords)

def readOutputDirectories (fields : Fields) : Option Linkage → Except Problem OutputKind
  | none => do
    return .executable (← fields.requireText Tag.executableDirectory (some Reason.executableDirectory))
  | some linkage => do
    let archiveDirectory ← fields.requireText Tag.archiveDirectory (some Reason.archiveDirectory)
    let libraryDirectory ← fields.requireText Tag.libraryDirectory (some Reason.libraryDirectory)
    return .library linkage archiveDirectory libraryDirectory

def baseSource (root : Path) (baseFile : Option String) : List String :=
  (baseFile.map fun file => scriptPath (root.join (Path.ofString (normalizeSeparators file))) root).toList

def OutputUnit.summary (unit : OutputUnit) : LogRecord :=
  .debug ("output \"" ++ unit.name ++ "\" (" ++ unit.kind.word ++ "): " ++ Nat.repr unit.sources.length ++
    " sources, " ++ Nat.repr unit.includeDirectories.length ++ " include dirs")

def readOutputFields (tree : FileTree) (root : Path) (name : String) (fields : Fields) :
    Attempt Problem OutputUnit := do
  let linkage ← readOutputKindWord fields
  let baseFile ← fields.optionalText Tag.baseFile
  let sourceDirectories ← fields.requireTexts Tag.sourceDirectories (some Reason.sourceDirectories)
  let sourceFiles := tree.findFiles root root sourceDirectories sourceSuffixes
  Attempt.note (tree.searchLog root sourceDirectories "files" sourceFiles)
  let headerDirectories ← fields.requireTexts Tag.headerDirectories (some Reason.headerDirectories)
  let headerFiles := tree.findFiles root root headerDirectories headerSuffixes
  Attempt.note (tree.searchLog root headerDirectories "files" headerFiles)
  let sources := orderedUnion (orderedUnion (baseSource root baseFile) sourceFiles) headerFiles
  if sources.isEmpty then
    Attempt.fail (fields.empty Tag.sourceDirectories Reason.noSources)
  else
    let searched ← fields.requireTexts Tag.searchedIncludeDirectories (some Reason.includeDirectories)
    let found := tree.findDirectories root root searched
    Attempt.note (tree.searchLog root searched "directories" found)
    let literal ← fields.optionalTexts Tag.includeDirectories
    let kind ← readOutputDirectories fields linkage
    let unit : OutputUnit := ⟨name, kind, sources, orderedUnion found (literal.map normalizeSeparators)⟩
    Attempt.note [unit.summary]
    return unit

def readOutput (tree : FileTree) (root : Path) (name : String) (value : Json) : Attempt Problem OutputUnit := do
  let fields ← Fields.ofEntry Tag.output name value
  readOutputFields tree root name fields

def readOutputs (tree : FileTree) (root : Path) (top : Fields) : Attempt Problem (List OutputUnit) := do
  let members ← top.requireObject Tag.output none
  if members.isEmpty then
    Attempt.fail (top.empty Tag.output Reason.output)
  else
    members.mapM fun member => readOutput tree root member.1 member.2

end Listfile
