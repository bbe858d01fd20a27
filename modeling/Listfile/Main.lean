import Listfile.CommandLine
import Listfile.Disk

set_option autoImplicit false

/-! The program: a run of the command line on the disk. -/

open Listfile in
def main (arguments : List String) : IO UInt32 := do
  match CommandLine.parse (arguments.map Path.ofString) with
  | .run options =>
    let tree ← Disk.read options.rootPath
    let planned := CommandLine.runOptions tree options
    let written ←
      if options.writes ∧ planned.exitCode = 0 then Disk.writeBack options.rootPath planned.tree else pure (.ok ())
    match written with
    | .ok () =>
      IO.print planned.output
      return planned.exitCode.toUInt32
    | .error message =>
      IO.print ("ERROR: " ++ message ++ "\n")
      return 1
  | _ =>
    let result := CommandLine.run ⟨[], []⟩ arguments
    IO.print result.output
    return result.exitCode.toUInt32
