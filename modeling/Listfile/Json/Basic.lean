import Listfile.Number.Binary64

set_option autoImplicit false

/-! JSON values. An object keeps its members in order; `insertMember` keeps the keys apart, so that a
repeated key stays where it was first and takes the last value. -/

namespace Listfile

inductive JsonNumber where
  | integer (value : Int)
  | binary (value : Binary64)
  deriving DecidableEq, Repr

inductive Json where
  | null
  | bool (value : Bool)
  | number (value : JsonNumber)
  | string (text : String)
  | array (items : List Json)
  | object (members : List (String × Json))

namespace Json

/-- Sets the value of a key in place, or adds the member at the end. -/
def insertMember (key : String) (value : Json) : List (String × Json) → List (String × Json)
  | [] => [(key, value)]
  | (other, previous) :: members =>
    if other = key then (key, value) :: members else (other, previous) :: insertMember key value members

def member? (members : List (String × Json)) (key : String) : Option Json := members.lookup key

end Json

end Listfile
