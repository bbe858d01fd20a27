import Listfile.Json.Basic
import Listfile.Number.Shortest

set_option autoImplicit false

/-! Writing JSON values. The compact form has no blanks; the indented form puts every item and member of
a non-empty bracket on its own line, two spaces deeper than the bracket. -/

namespace Listfile

def JsonNumber.text : JsonNumber → String
  | .integer value => Int.repr value
  | .binary value => value.text

namespace Json

def hexDigit (value : Nat) : Char := Nat.digitChar value

def escapeCharacter (character : Char) : List Char :=
  match character with
  | '"' => ['\\', '"']
  | '\\' => ['\\', '\\']
  | '\x08' => ['\\', 'b']
  | '\x0c' => ['\\', 'f']
  | '\n' => ['\\', 'n']
  | '\r' => ['\\', 'r']
  | '\t' => ['\\', 't']
  | character =>
    if character.toNat < 0x20 then
      ['\\', 'u', '0', '0', hexDigit (character.toNat / 16), hexDigit (character.toNat % 16)]
    else
      [character]

def quoted (text : String) : String := "\"" ++ String.ofList (text.toList.flatMap escapeCharacter) ++ "\""

mutual

def compact : Json → String
  | .null => "null"
  | .bool value => if value then "true" else "false"
  | .number value => value.text
  | .string text => quoted text
  | .array items => "[" ++ ",".intercalate (compactItems items) ++ "]"
  | .object members => "\x7b" ++ ",".intercalate (compactMembers members) ++ "\x7d"

def compactItems : List Json → List String
  | [] => []
  | item :: items => compact item :: compactItems items

def compactMembers : List (String × Json) → List String
  | [] => []
  | (key, value) :: members => (quoted key ++ ":" ++ compact value) :: compactMembers members

end

/-- The start of a line, `depth` brackets deep. -/
def lineStart (depth : Nat) : String := "\n" ++ String.ofList (List.replicate (2 * depth) ' ')

/-- A bracket around pieces that stand one deeper than `depth`. -/
def bracketed (opening closing : String) (depth : Nat) (pieces : List String) : String :=
  if pieces.isEmpty then opening ++ closing
  else
    opening ++ lineStart (depth + 1) ++ ("," ++ lineStart (depth + 1)).intercalate pieces ++
      lineStart depth ++ closing

mutual

def indented (depth : Nat) : Json → String
  | .null => "null"
  | .bool value => if value then "true" else "false"
  | .number value => value.text
  | .string text => quoted text
  | .array items => bracketed "[" "]" depth (indentedItems (depth + 1) items)
  | .object members => bracketed "\x7b" "\x7d" depth (indentedMembers (depth + 1) members)

def indentedItems (depth : Nat) : List Json → List String
  | [] => []
  | item :: items => indented depth item :: indentedItems depth items

def indentedMembers (depth : Nat) : List (String × Json) → List String
  | [] => []
  | (key, value) :: members => (quoted key ++ ": " ++ indented depth value) :: indentedMembers depth members

end

end Json

end Listfile
