import Listfile.Generation
import Listfile.Json.Printer
import Listfile.Project.Document

set_option autoImplicit false

/-! The command line: which arguments are accepted, what a run does to a file tree, and what it prints. A
run writes the listfile, prints it, or prints the resolved project; every failure is explained on
standard output and ends with exit code one. Arguments are taken as paths are: they need not be text. -/

namespace Listfile.CommandLine

structure Options where
  root : Option Path
  toStdout : Bool
  dumpModel : Bool
  deriving DecidableEq, Repr

def Options.none : Options := ⟨Option.none, false, false⟩

def Options.writes (options : Options) : Bool := !options.dumpModel && !options.toStdout

inductive Request where
  | run (options : Options)
  | version
  | help
  | refused
  deriving DecidableEq, Repr

/-- Takes the root, which is given at most once and is not empty. -/
def Options.withRoot? (options : Options) (argument : Path) : Option Options :=
  if options.root.isSome ∨ argument.units = [] then Option.none else some { options with root := some argument }

def begins (word : String) (argument : Path) : Bool := (Path.ofString word).units.isPrefixOf argument.units

def parseRoots (options : Options) : List Path → Request
  | [] => .run options
  | argument :: arguments =>
    match options.withRoot? argument with
    | some options => parseRoots options arguments
    | Option.none => .refused

def parseFrom (options : Options) : List Path → Request
  | [] => .run options
  | argument :: arguments =>
    if argument = Path.ofString "--" then parseRoots options arguments
    else if argument = Path.ofString "--stdout" then
      if options.toStdout then .refused else parseFrom { options with toStdout := true } arguments
    else if argument = Path.ofString "--dump-model" then
      if options.dumpModel then .refused else parseFrom { options with dumpModel := true } arguments
    else if argument = Path.ofString "--version" ∨ begins "-V" argument then .version
    else if argument = Path.ofString "--help" ∨ begins "-h" argument then .help
    else if argument ≠ Path.ofString "-" ∧ begins "-" argument then .refused
    else
      match options.withRoot? argument with
      | some options => parseFrom options arguments
      | Option.none => .refused

/-- Options may stand before and after the root; the first argument that is wrong, or asks for the version
or for help, decides. -/
def parse (arguments : List Path) : Request := parseFrom .none arguments

structure Result where
  exitCode : Nat
  output : String
  tree : FileTree

def explain (root : Path) : GenerationError → String
  | .unresolved (.notFound _) =>
    "ERROR: JSON file not found in directory " ++ root.display ++ " ... make sure " ++ descriptorFile ++
      " exists and is located in your project's root directory. Also make sure the directory argument given IS the root directory of your project\n"
  | .unresolved (.malformed _ error) => "Problem with JSON: " ++ error.message ++ "\n"
  | .unresolved (.invalidRoot path reason) => "(TYPE) ERROR: " ++ (Problem.invalidRoot path reason).message ++ "\n"
  | .unresolved reason =>
    if reason.isSchemaProblem then "ERROR: Problem with JSON file. See below:\n\n" ++ reason.message ++ "\n"
    else "ERROR: " ++ (GenerationError.unresolved reason).fullMessage ++ "\n"
  | error => "ERROR: " ++ error.fullMessage ++ "\n"

def failed (tree : FileTree) (root : Path) (error : GenerationError) : Result := ⟨1, explain root error, tree⟩

def Options.rootPath (options : Options) : Path := options.root.getD (Path.ofString ".")

/-- Printing the project comes before printing the listfile, and that before writing it. -/
def runOptions (tree : FileTree) (options : Options) : Result :=
  let root := options.rootPath
  if options.dumpModel then
    match (resolve tree root).outcome with
    | .error reason => failed tree root (.unresolved reason)
    | .ok project =>
      match project.document with
      | .ok document => ⟨0, document.indented 0 ++ "\n", tree⟩
      | .error reason => ⟨1, "ERROR: " ++ reason ++ "\n", tree⟩
  else if options.toStdout then
    match (generateText tree root).outcome with
    | .ok text => ⟨0, text, tree⟩
    | .error reason => failed tree root (.unresolved reason)
  else
    let generation := Generation.run tree root
    match generation.attempt.outcome with
    | .ok _path => ⟨0, "CMakeLists.txt file written successfully!\n", generation.tree⟩
    | .error error => failed generation.tree root error

def versionText : String := "cmakegen 0.1.0\n"

def helpText : String :=
  "Generates CMakeLists.txt from the cmake_data.json in a project root\n\n" ++
    "Usage: cmakegen [OPTIONS] [ROOT]\n\n" ++
    "Arguments:\n  [ROOT]  Project root directory containing cmake_data.json [default: .]\n\n" ++
    "Options:\n      --stdout      Print the generated script instead of writing CMakeLists.txt\n" ++
    "      --dump-model  Print the resolved project as JSON and exit\n" ++
    "  -h, --help        Print help\n  -V, --version     Print version\n"

/-- A run with the given arguments. Refused arguments print nothing here. -/
def runArguments (tree : FileTree) (arguments : List Path) : Result :=
  match parse arguments with
  | .run options => runOptions tree options
  | .version => ⟨0, versionText, tree⟩
  | .help => ⟨0, helpText, tree⟩
  | .refused => ⟨2, "", tree⟩

def run (tree : FileTree) (arguments : List String) : Result := runArguments tree (arguments.map Path.ofString)

end Listfile.CommandLine
