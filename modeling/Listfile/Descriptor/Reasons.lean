set_option autoImplicit false

/-! Why the fields of a descriptor are needed, in words for the person who writes it. -/

namespace Listfile.Reason

def targets : String :=
  "Are you building a release binary? Or maybe a debug one? Add the 'targets' tag and add a build type to it."

def cppFlags : String :=
  "C++ compiler flags must be defined (as an array). If you aren't using any compiler flags, still define this tag as an empty array."

def cFlags : String :=
  "C compiler flags must be defined (as an array). If you aren't using any compiler flags, still define this tag as an empty array."

def output : String :=
  "An item must be added to the output tag, otherwise nothing will be compiled and/or built."

def outputKind : String :=
  "Without a type, we do not know what to compile your code into. Options: \"executable\", \"static_lib\", \"shared_lib\""

def sourceDirectories : String :=
  "These are the base directories to be recursively searched for source files. If you are only compiling the (optional) base file, still include this tag with an empty array."

def headerDirectories : String :=
  "These are the base directories to be recursively searched for header files. If your headers live next to your sources, still include this tag with an empty array."

def includeDirectories : String :=
  "Without passing the include directories of your header files to the compiler, there is a good chance they may not be included."

def executableDirectory : String :=
  "Specifies the directory into which the executable will be built. (Don't use a beginning /)"

def archiveDirectory : String :=
  "Specifies the directory into which the library 'archive' files will be built. (Don't use a beginning /)"

def libraryDirectory : String :=
  "Specifies the directory into which the library files will be built. (Don't use a beginning /)"

def noSources : String :=
  "No source files were found for this output. Add a base_file or a directory containing sources."

def importedKind : String := "Imported libraries must be either \"static\" or \"shared\"."

def rootDirectory : String := "The directory containing the library, relative to the project root."

def libraryFiles : String :=
  "The library files to link, relative to root_dir and without a platform prefix or extension (e.g. \"lib/z\")."

def importedIncludeDirectories : String :=
  "The directories, relative to root_dir, searched recursively for the library's headers. Use an empty array for a library without headers."

def standards : String := "At least one language standard must be allowed."

end Listfile.Reason
