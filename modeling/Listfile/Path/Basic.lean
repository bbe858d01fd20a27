set_option autoImplicit false

/-! Paths as texts. A path is a sequence of characters and of byte sequences that are no text; only `/`
separates. Nothing is normalized here: joining keeps what is written, and `segments` keeps empty and
`.` segments. -/

namespace Listfile

/-- One unit of a path: a character, or the bytes of one ill-formed sequence. -/
inductive PathUnit where
  | char (character : Char)
  | invalid (bytes : List UInt8)
  deriving DecidableEq, Repr

abbrev Name := List PathUnit

structure Path where
  units : List PathUnit
  deriving DecidableEq, Repr

namespace PathUnit

def separator : PathUnit := .char '/'

def dot : PathUnit := .char '.'

def isText : PathUnit → Bool
  | .char _ => true
  | .invalid _ => false

def shown : PathUnit → Char
  | .char character => character
  | .invalid _ => '\uFFFD'

def bytes : PathUnit → List UInt8
  | .char character => String.utf8EncodeChar character
  | .invalid bytes => bytes

end PathUnit

namespace Name

def ofString (text : String) : Name := text.toList.map .char

def shown (name : Name) : String := String.ofList (name.map PathUnit.shown)

def text? (name : Name) : Option String := if name.all PathUnit.isText then some (shown name) else none

def bytes (name : Name) : List UInt8 := name.flatMap PathUnit.bytes

def isHidden (name : Name) : Bool := name.all PathUnit.isText && name.head? == some .dot

def current : Name := [.dot]

def parent : Name := [.dot, .dot]

/-- What follows the last dot. A name without a dot, or with its only dot in front, has no extension. -/
def extension? (name : Name) : Option Name :=
  match name.reverse.dropWhile (· ≠ PathUnit.dot) with
  | _ :: _ :: _ => some (name.reverse.takeWhile (· ≠ PathUnit.dot)).reverse
  | _ => none

end Name

def splitSegments : List PathUnit → List Name
  | [] => [[]]
  | unit :: rest =>
    if unit = .separator then
      [] :: splitSegments rest
    else
      match splitSegments rest with
      | [] => [[unit]]
      | segment :: segments => (unit :: segment) :: segments

namespace Path

def ofString (text : String) : Path := ⟨text.toList.map .char⟩

def ofName (name : Name) : Path := ⟨name⟩

def display (path : Path) : String := String.ofList (path.units.map PathUnit.shown)

def isText (path : Path) : Bool := path.units.all PathUnit.isText

def byteCount (path : Path) : Nat := (path.units.flatMap PathUnit.bytes).length

def isAbsolute (path : Path) : Bool := path.units.head? == some .separator

def segments (path : Path) : List Name := splitSegments path.units

/-- An absolute path replaces the base; anything else is appended after one separator. -/
def join (base path : Path) : Path :=
  if path.isAbsolute then
    path
  else if base.units = [] ∨ base.units.getLast? = some .separator then
    ⟨base.units ++ path.units⟩
  else
    ⟨base.units ++ PathUnit.separator :: path.units⟩

def child (base : Path) (name : Name) : Path := base.join (ofName name)

end Path

end Listfile
