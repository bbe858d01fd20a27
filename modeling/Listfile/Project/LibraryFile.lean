set_option autoImplicit false

/-! File names of prebuilt libraries. A library file is given without prefix and suffix; each platform adds
its own to the last segment of the path. -/

namespace Listfile.LibraryFile

def split (file : List Char) : List Char × List Char :=
  ((file.reverse.dropWhile (· ≠ '/')).reverse, (file.reverse.takeWhile (· ≠ '/')).reverse)

def windowsLibrary (file : String) : String := file ++ ".lib"

def windowsDll (file : String) : String := file ++ ".dll"

/-- The file with `lib` in front of its last segment and the suffix behind it. -/
def unix (file suffix : String) : String :=
  String.ofList (split file.toList).1 ++ "lib" ++ String.ofList (split file.toList).2 ++ "." ++ suffix

end Listfile.LibraryFile
