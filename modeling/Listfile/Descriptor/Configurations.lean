import Listfile.Attempt
import Listfile.Descriptor.Fields
import Listfile.Descriptor.Reasons

set_option autoImplicit false

/-! Reading language standards and build configurations. -/

namespace Listfile

def LanguageStandards.warnings (standards : LanguageStandards) (tag : String) : List LogRecord :=
  if standards.declared ≠ "" ∧ standards.active ≠ standards.declared then
    [.warning ("Default standard \"" ++ standards.declared ++ "\" is not listed in \"" ++ tag ++ "\". Using \"" ++
      standards.active ++ "\" instead.")]
  else []

def readStandards (top : Fields) (tag declared : String) : Attempt Problem LanguageStandards := do
  let allowed ← top.requireScalars tag none
  if allowed.isEmpty then
    Attempt.fail (top.empty tag Reason.standards)
  else
    Attempt.note (LanguageStandards.warnings ⟨declared, allowed⟩ tag)
    return ⟨declared, allowed⟩

def readTarget (name : String) (value : Json) : Except Problem BuildTarget := do
  let fields ← Fields.ofEntry Tag.targets name value
  let cppFlags ← fields.requireTexts Tag.cppFlags (some Reason.cppFlags)
  let cFlags ← fields.requireTexts Tag.cFlags (some Reason.cFlags)
  return ⟨name, cFlags, cppFlags⟩

def readTargets (top : Fields) : Except Problem (List BuildTarget) := do
  let members ← top.requireObject Tag.targets (some Reason.targets)
  if members.isEmpty then
    .error (top.empty Tag.targets Reason.targets)
  else
    members.mapM fun member => readTarget member.1 member.2

def readDefaultTarget (top : Fields) (targets : List BuildTarget) : Except Problem (Option String) := do
  match ← top.optionalText Tag.defaultTarget with
  | none => return none
  | some name =>
    if name = "" then return none
    else if targets.any (·.name = name) then return some name
    else .error (.unknownReference name Tag.defaultTarget "\"targets\"")

end Listfile
