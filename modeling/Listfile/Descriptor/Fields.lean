import Listfile.Descriptor.Problem
import Listfile.Json.Basic
import Listfile.Json.Printer

set_option autoImplicit false

/-! Reading the fields of one object of a descriptor. A required field must be there and have the right
shape; an optional field may also be absent or null. Problems name the field and the entry that holds
the object. -/

namespace Listfile

/-- The members of an object, and the name of the entry that it is the value of. -/
structure Fields where
  members : List (String × Json)
  parent : Option String

def Json.scalar? : Json → Option String
  | .string text => some text
  | .number value => some value.text
  | _ => none

def Json.text? : Json → Option String
  | .string text => some text
  | _ => none

namespace Fields

def get? (fields : Fields) (tag : String) : Option Json := Json.member? fields.members tag

def missing (fields : Fields) (tag : String) (reason : Option String) : Problem :=
  .missingField tag fields.parent reason

def wrongType (fields : Fields) (tag expected : String) : Problem := .wrongType tag fields.parent expected

def empty (fields : Fields) (tag reason : String) : Problem := .emptyField tag fields.parent reason

def invalid (fields : Fields) (tag value : String) (allowed : List String) : Problem :=
  .invalidValue tag fields.parent value allowed

def ofEntry (tag name : String) : Json → Except Problem Fields
  | .object members => .ok ⟨members, some name⟩
  | _ => .error (.wrongType name (some tag) "an object")

def require (fields : Fields) (tag : String) (reason : Option String) : Except Problem Json :=
  match fields.get? tag with
  | some value => .ok value
  | none => .error (fields.missing tag reason)

/-- The value of a field, unless it is absent or null. -/
def optional (fields : Fields) (tag : String) : Option Json :=
  match fields.get? tag with
  | none | some .null => none
  | some value => some value

def asText (fields : Fields) (tag : String) (value : Json) : Except Problem String :=
  match value.text? with
  | some text => .ok text
  | none => .error (fields.wrongType tag "a string")

def asScalar (fields : Fields) (tag : String) (value : Json) : Except Problem String :=
  match value.scalar? with
  | some text => .ok text
  | none => .error (fields.wrongType tag "a string or a number")

/-- The items of an array, each read by `read`; anything else is not what was expected. -/
def asList (fields : Fields) (tag expected : String) (read : Json → Option String) (value : Json) :
    Except Problem (List String) :=
  match value with
  | .array items =>
    match items.mapM read with
    | some texts => .ok texts
    | none => .error (fields.wrongType tag expected)
  | _ => .error (fields.wrongType tag expected)

def asTexts (fields : Fields) (tag : String) (value : Json) : Except Problem (List String) :=
  fields.asList tag "an array of strings" Json.text? value

def asScalars (fields : Fields) (tag : String) (value : Json) : Except Problem (List String) :=
  fields.asList tag "an array of strings or numbers" Json.scalar? value

def asObject (fields : Fields) (tag : String) (value : Json) : Except Problem (List (String × Json)) :=
  match value with
  | .object members => .ok members
  | _ => .error (fields.wrongType tag "an object")

def requireText (fields : Fields) (tag : String) (reason : Option String) : Except Problem String := do
  fields.asText tag (← fields.require tag reason)

def requireScalars (fields : Fields) (tag : String) (reason : Option String) : Except Problem (List String) := do
  fields.asScalars tag (← fields.require tag reason)

def requireTexts (fields : Fields) (tag : String) (reason : Option String) : Except Problem (List String) := do
  fields.asTexts tag (← fields.require tag reason)

def requireObject (fields : Fields) (tag : String) (reason : Option String) :
    Except Problem (List (String × Json)) := do
  fields.asObject tag (← fields.require tag reason)

def optionalText (fields : Fields) (tag : String) : Except Problem (Option String) :=
  match fields.optional tag with
  | none => .ok none
  | some value => (fields.asText tag value).map some

def optionalScalar (fields : Fields) (tag : String) : Except Problem (Option String) :=
  match fields.optional tag with
  | none => .ok none
  | some value => (fields.asScalar tag value).map some

def optionalTexts (fields : Fields) (tag : String) : Except Problem (List String) :=
  match fields.optional tag with
  | none => .ok []
  | some value => fields.asTexts tag value

def optionalObject (fields : Fields) (tag : String) : Except Problem (List (String × Json)) :=
  match fields.optional tag with
  | none => .ok []
  | some value => fields.asObject tag value

end Fields

end Listfile
