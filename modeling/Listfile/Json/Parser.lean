import Listfile.Json.Parser.Number
import Listfile.Json.Parser.Text

set_option autoImplicit false

/-! Reading JSON texts. `parse` accepts exactly one value with blanks around it and otherwise reports the
first fault and its position. Brackets may be nested to a fixed depth, which also bounds the
recursion; the members of one bracket are read in a loop that always shortens the text. -/

namespace Listfile.Json

abbrev Reader (α : Type) := (input : List Char) → Outcome α input

theorem length_lt_of_skipBlanks {input rest : List Char} {next : Char} (view : skipBlanks input = next :: rest) :
    rest.length < input.length := by
  have bound := length_skipBlanks_le input
  rw [view] at bound
  exact bound

def readItems (readItem : Reader Json) (input : List Char) : Outcome (List Json) input :=
  match readItem input with
  | .error failure => .error failure
  | .ok item =>
    match view : skipBlanks item.rest with
    | [] => .error (.before .endInArray [])
    | next :: rest =>
      have shorter : rest.length < input.length := Nat.lt_of_lt_of_le (length_lt_of_skipBlanks view) item.within
      if next = ']' then
        (Outcome.stay [item.value] rest).widen (Nat.le_of_lt shorter)
      else if next = ',' then
        match skipBlanks rest with
        | [] => .error (.before .endInValue [])
        | following :: others =>
          if following = ']' then .error (.atNext .trailingComma (following :: others))
          else ((readItems readItem rest).change (item.value :: ·)).widen (Nat.le_of_lt shorter)
      else
        .error (.atNext .expectedCommaOrBracket (next :: rest))
  termination_by input.length

def readMemberValue (readItem : Reader Json) (key : String) (input : List Char) : Outcome (String × Json) input :=
  match view : skipBlanks input with
  | [] => .error (.before .endInObject [])
  | colon :: rest =>
    if colon = ':' then
      ((readItem rest).change fun value => (key, value)).widen (Nat.le_of_lt (length_lt_of_skipBlanks view))
    else
      .error (.atNext .expectedColon (colon :: rest))

def readMember (readItem : Reader Json) (input : List Char) : Outcome (String × Json) input :=
  match view : skipBlanks input with
  | [] => .error (.before .endInValue [])
  | quote :: rest =>
    if quote = '"' then
      ((readString rest).andThen fun key => readMemberValue readItem key.value key.rest).widen
        (Nat.le_of_lt (length_lt_of_skipBlanks view))
    else
      .error (.atNext .keyNotString (quote :: rest))

/-- The members of an object, when at least one is due, up to the closing brace. `before` holds the
members that were read already. -/
def readMembers (readItem : Reader Json) (before : List (String × Json)) (input : List Char) :
    Outcome (List (String × Json)) input :=
  match readMember readItem input with
  | .error failure => .error failure
  | .ok member =>
    let members := insertMember member.value.1 member.value.2 before
    match view : skipBlanks member.rest with
    | [] => .error (.before .endInObject [])
    | next :: rest =>
      have shorter : rest.length < input.length := Nat.lt_of_lt_of_le (length_lt_of_skipBlanks view) member.within
      if next = '\x7d' then
        (Outcome.stay members rest).widen (Nat.le_of_lt shorter)
      else if next = ',' then
        match skipBlanks rest with
        | [] => .error (.before .endInValue [])
        | following :: others =>
          if following = '\x7d' then .error (.atNext .trailingComma (following :: others))
          else (readMembers readItem members rest).widen (Nat.le_of_lt shorter)
      else
        .error (.atNext .expectedCommaOrBrace (next :: rest))
  termination_by input.length

def readArray (readItem : Reader Json) (input : List Char) : Outcome Json input :=
  match view : skipBlanks input with
  | [] => .error (.before .endInArray [])
  | next :: rest =>
    if next = ']' then (Outcome.stay (.array []) rest).widen (Nat.le_of_lt (length_lt_of_skipBlanks view))
    else (readItems readItem input).change .array

def readObject (readItem : Reader Json) (input : List Char) : Outcome Json input :=
  match view : skipBlanks input with
  | [] => .error (.before .endInObject [])
  | next :: rest =>
    if next = '\x7d' then (Outcome.stay (.object []) rest).widen (Nat.le_of_lt (length_lt_of_skipBlanks view))
    else (readMembers readItem [] input).change .object

def readScalar (first : Char) (rest : List Char) : Outcome Json (first :: rest) :=
  let named (word : List Char) (value : Json) : Outcome Json (first :: rest) :=
    ((readWord word rest).change fun _ => value).after first
  if first = 'n' then named ['u', 'l', 'l'] .null
  else if first = 't' then named ['r', 'u', 'e'] (.bool true)
  else if first = 'f' then named ['a', 'l', 's', 'e'] (.bool false)
  else if first = '"' then ((readString rest).change .string).after first
  else if first = '-' then ((readNumber true rest).change .number).after first
  else if isDigit first then (readNumber false (first :: rest)).change .number
  else .error (.atNext .expectedValue (first :: rest))

/-- A value in which brackets are nested at most `depth` deep. -/
def readValue (depth : Nat) (input : List Char) : Outcome Json input :=
  match view : skipBlanks input with
  | [] => .error (.before .endInValue [])
  | first :: rest =>
    if first = '[' ∨ first = '\x7b' then
      match depth with
      | 0 => .error (.atNext .nestedTooDeep (first :: rest))
      | inner + 1 =>
        (if first = '[' then readArray (readValue inner) rest else readObject (readValue inner) rest).widen
          (Nat.le_of_lt (length_lt_of_skipBlanks view))
    else
      (readScalar first rest).widen (length_lt_of_skipBlanks view)

def greatestDepth : Nat := 127

def readDocument (input : List Char) : Except Failure Json :=
  match readValue greatestDepth input with
  | .error failure => .error failure
  | .ok reading =>
    match skipBlanks reading.rest with
    | [] => .ok reading.value
    | next :: rest => .error (.atNext .trailingCharacters (next :: rest))

def parse (text : String) : Except SyntaxError Json :=
  match readDocument text.toList with
  | .ok value => .ok value
  | .error failure =>
    let bytes := text.toList.flatMap String.utf8EncodeChar
    .error (.after failure.fault (bytes.take (bytes.length - failure.behind)))

end Listfile.Json
