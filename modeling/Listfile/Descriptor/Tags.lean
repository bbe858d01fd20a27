import Listfile.OrderedUnion
import Listfile.Project.Basic

set_option autoImplicit false

/-! The vocabulary of descriptors: file names, tags, the values of `type`, and the suffixes by which
source and header files are known. -/

namespace Listfile

def descriptorFile : String := "cmake_data.json"

def listfileName : String := "CMakeLists.txt"

namespace Tag

def minimumVersion : String := "min_cmake_version"
def projectName : String := "project_name"
def defaultCStandard : String := "default_c_standard"
def defaultCppStandard : String := "default_cpp_standard"
def allowedCStandards : String := "allowed_c_standards"
def allowedCppStandards : String := "allowed_cpp_standards"
def targets : String := "targets"
def cFlags : String := "c_flags"
def cppFlags : String := "cpp_flags"
def defaultTarget : String := "default_target"
def output : String := "output"
def kind : String := "type"
def baseFile : String := "base_file"
def sourceDirectories : String := "r_source_dirs"
def headerDirectories : String := "r_header_dirs"
def searchedIncludeDirectories : String := "r_include_dirs"
def includeDirectories : String := "include_dirs"
def executableDirectory : String := "executable_output_dir"
def archiveDirectory : String := "archive_output_dir"
def libraryDirectory : String := "library_output_dir"
def importedLibraries : String := "imported_libs"
def rootDirectory : String := "root_dir"
def libraryFiles : String := "lib_files"
def headerFiles : String := "header_files"
def linkLibraries : String := "link_libs"

end Tag

def Linkage.word : Linkage → String
  | .static => "static"
  | .shared => "shared"

def linkageWords : List String := [Linkage.static.word, Linkage.shared.word]

/-- The value of `type` that asks for this kind of output. -/
def OutputKind.word : OutputKind → String
  | .executable _ => "executable"
  | .library .static .. => "static_lib"
  | .library .shared .. => "shared_lib"

def outputWords : List String := ["executable", "static_lib", "shared_lib"]

def sourceSuffixes : List String := orderedUnion ["c"] ["cpp", "cc", "c++", "cxx"]

def headerSuffixes : List String := orderedUnion ["h"] ["hpp", "hh", "h++", "hxx", "h"]

end Listfile
