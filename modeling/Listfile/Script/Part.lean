import Listfile.Descriptor.Tags
import Listfile.Log
import Listfile.Project.LibraryFile
import Listfile.Script.Argument

set_option autoImplicit false

/-! The parts of a listfile. Each part is written as a list of lines; an empty line comes before every
block. A part never looks at another part. -/

namespace Listfile.Script

def listLines (variableName : String) (entries : List String) : List String :=
  ["", "set( " ++ variableName] ++ entries.map (fun entry => "\t" ++ qualify entry) ++ [")"]

def messageLine (indent message : String) : String := indent ++ "message( " ++ quote message ++ " )"

def versionLines (version : String) : List String :=
  ["# Generated from " ++ descriptorFile ++ ". Changes made here are overwritten.",
    "cmake_minimum_required( VERSION " ++ version ++ " )"]

def projectNameLines (name : String) : List String := ["project( " ++ name ++ " )"]

/-- Where one platform finds the unit; every property is a path. -/
def locationLines (identifier : String) (properties : List (String × String)) : List String :=
  ["\tset_target_properties( " ++ identifier ++ " PROPERTIES"] ++
    properties.map (fun property => "\t\t" ++ property.1 ++ " " ++ qualify property.2) ++ ["\t)"]

def platformProperties (linkage : Linkage) (file : String) : List (String × List (String × String)) :=
  match linkage with
  | .static =>
    [("if( WIN32 )", [("IMPORTED_LOCATION", LibraryFile.windowsLibrary file)]),
      ("elseif( UNIX )", [("IMPORTED_LOCATION", LibraryFile.unix file "a")])]
  | .shared =>
    [("if( WIN32 )",
        [("IMPORTED_LOCATION", LibraryFile.windowsDll file), ("IMPORTED_IMPLIB", LibraryFile.windowsLibrary file)]),
      ("elseif( APPLE )", [("IMPORTED_LOCATION", LibraryFile.unix file "dylib")]),
      ("elseif( UNIX AND NOT APPLE )", [("IMPORTED_LOCATION", LibraryFile.unix file "so")])]

def importedUnitLines (linkage : Linkage) (identifier file : String) : List String :=
  ["", "add_library( " ++ identifier ++ " " ++ linkage.keyword ++ " IMPORTED )"] ++
    (platformProperties linkage file).flatMap
      (fun platform => platform.1 :: locationLines identifier platform.2) ++
    ["endif()"]

def importedLibraryLines (library : ImportedLibrary) : List String :=
  listLines library.includeVariable library.includeDirectories ++
    listLines library.headerVariable library.headerFiles ++
    (library.identifiers.zip library.files).flatMap
      (fun unit => importedUnitLines library.linkage unit.1 unit.2)

def declarationLine (unit : OutputUnit) : String :=
  match unit.kind with
  | .executable _ =>
    "add_executable( " ++ unit.identifier ++ " " ++ variableReference unit.sourcesVariable ++ " )"
  | .library linkage _ _ =>
    "add_library( " ++ unit.identifier ++ " " ++ linkage.keyword ++ " " ++
      variableReference unit.sourcesVariable ++ " )"

/-- A library always lists its include directories, an executable only if it has some. -/
def includeLines (unit : OutputUnit) : List String :=
  if unit.isExecutable && unit.includeDirectories.isEmpty then []
  else
    listLines (includeVariable unit.name) unit.includeDirectories ++
      ["", "target_include_directories( " ++ unit.identifier ++ " PRIVATE " ++
        variableReference (includeVariable unit.name) ++ " )"]

def outputDirectoryLines (kind : OutputKind) : List String :=
  match kind with
  | .executable directory => ["\tRUNTIME_OUTPUT_DIRECTORY " ++ buildDirectory directory]
  | .library linkage archiveDirectory libraryDirectory =>
    ["\tARCHIVE_OUTPUT_DIRECTORY " ++ buildDirectory archiveDirectory,
      "\tLIBRARY_OUTPUT_DIRECTORY " ++ buildDirectory libraryDirectory] ++
      (if linkage = .shared then ["\tRUNTIME_OUTPUT_DIRECTORY " ++ buildDirectory libraryDirectory] else [])

def outputLines (unit : OutputUnit) : List String :=
  listLines unit.sourcesVariable unit.sources ++ ["", declarationLine unit] ++ includeLines unit ++
    ["", "set_target_properties( " ++ unit.identifier, "\tPROPERTIES", "\tOUTPUT_NAME " ++ unit.name] ++
    outputDirectoryLines unit.kind ++ [")"]

def linkLines (edge : LinkEdge) : List String :=
  ["", "target_link_libraries( " ++ outputIdentifier edge.source] ++
    (edge.targets.flatMap LinkReference.linkNames).map (fun name => "\t" ++ name) ++ [")"]

inductive Language where
  | c
  | cpp
  deriving DecidableEq, Repr

namespace Language

def standardVariable : Language → String
  | .c => "C_COMPILER_STANDARD"
  | .cpp => "CXX_COMPILER_STANDARD"

def targetProperty : Language → String
  | .c => "C_STANDARD"
  | .cpp => "CXX_STANDARD"

def description : Language → String
  | .c => "C compiler standard year"
  | .cpp => "C++ compiler standard year"

def flag : Language → String
  | .c => "-std=c"
  | .cpp => "-std=c++"

def shortName : Language → String
  | .c => "C"
  | .cpp => "CXX"

end Language

def standardLines (language : Language) (standards : LanguageStandards) (outputs : List OutputUnit) : List String :=
  let variableName := language.standardVariable
  ["", "set( " ++ variableName ++ " " ++ quote standards.active ++ " CACHE STRING " ++
      quote language.description ++ " )",
    "set_property( CACHE " ++ variableName ++ " PROPERTY STRINGS " ++
      " ".intercalate (standards.allowed.map quote) ++ " )"] ++
    outputs.map (fun unit => "set_target_properties( " ++ unit.identifier ++ " PROPERTIES " ++
      language.targetProperty ++ " " ++ variableReference variableName ++ " )") ++
    [messageLine "" ("Using " ++ language.shortName ++ " compiler standard " ++ language.flag ++
      variableReference variableName)]

def defaultTargetLines (name : String) : List String :=
  ["", "if( " ++ buildTypeIs "" ++ " )",
    "\tset( " ++ buildTypeVariable ++ " " ++ quote (Text.capitalize name) ++
      " CACHE STRING \"Build configuration\" FORCE )",
    "endif()"]

def targetListLines (targets : List BuildTarget) : List String :=
  ["", "set_property( CACHE " ++ buildTypeVariable ++ " PROPERTY STRINGS " ++
    " ".intercalate (targets.map fun target => quote target.configurationName) ++ " )"]

def targetLines (target : BuildTarget) : List String :=
  ["", "if( " ++ buildTypeIs target.configurationName ++ " )",
    "\tset( CMAKE_C_FLAGS " ++ quote (" ".intercalate target.cFlags) ++ " )",
    "\tset( CMAKE_CXX_FLAGS " ++ quote (" ".intercalate target.cppFlags) ++ " )",
    messageLine "\t" ("Building project " ++ variableReference buildTypeVariable ++ " configuration"),
    "endif()"]

inductive Part where
  | version (text : String)
  | projectName (text : String)
  | importedLibrary (library : ImportedLibrary)
  | output (unit : OutputUnit)
  | links (edge : LinkEdge)
  | standards (language : Language) (choice : LanguageStandards) (units : List OutputUnit)
  | defaultTarget (name : String)
  | targetList (configurations : List BuildTarget)
  | target (configuration : BuildTarget)

def Part.lines : Part → List String
  | .version text => versionLines text
  | .projectName text => projectNameLines text
  | .importedLibrary library => importedLibraryLines library
  | .output unit => outputLines unit
  | .links edge => linkLines edge
  | .standards language choice units => standardLines language choice units
  | .defaultTarget name => defaultTargetLines name
  | .targetList configurations => targetListLines configurations
  | .target configuration => targetLines configuration

def Part.announcement : Part → List LogRecord
  | .importedLibrary library => [.debug ("   imported library: " ++ library.name)]
  | .output unit => [.debug ("   output: " ++ unit.name)]
  | _ => []

end Listfile.Script
