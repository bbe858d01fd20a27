import Listfile.Json.Parser.Reading

set_option autoImplicit false

/-! Reading strings, after the opening quote. An escape of four hex digits is taken as bytes of the text,
so that a longer character among them is counted by its bytes. Two escapes make one character if they
are the halves of a surrogate pair; no half may stand alone. -/

namespace Listfile.Json

def hexValue? (character : Char) : Option Nat :=
  let code := character.toNat
  if '0' ≤ character ∧ character ≤ '9' then some (code - '0'.toNat)
  else if 'a' ≤ character ∧ character ≤ 'f' then some (code - 'a'.toNat + 10)
  else if 'A' ≤ character ∧ character ≤ 'F' then some (code - 'A'.toNat + 10)
  else none

def hexWord? (a b c d : Char) : Option Nat := do
  return (((← hexValue? a) * 16 + (← hexValue? b)) * 16 + (← hexValue? c)) * 16 + (← hexValue? d)

def readHexWord (input : List Char) : Outcome Nat input :=
  if byteCount input < 4 then
    .error (.before .endInString [])
  else
    match input with
    | a :: b :: c :: d :: rest =>
      match hexWord? a b c d with
      | some word => ((((Outcome.stay word rest).after d).after c).after b).after a
      | none => .error (.inside .invalidEscape 4 (a :: b :: c :: d :: rest))
    | input => .error (.inside .invalidEscape 4 input)

def isHighSurrogate (word : Nat) : Bool := decide (0xD800 ≤ word) && decide (word ≤ 0xDBFF)

def isLowSurrogate (word : Nat) : Bool := decide (0xDC00 ≤ word) && decide (word ≤ 0xDFFF)

def pairValue (high low : Nat) : Nat := (high - 0xD800) * 0x400 + (low - 0xDC00) + 0x10000

def readLowSurrogate (high : Nat) (input : List Char) : Outcome Char input :=
  match input with
  | [] => .error (.before .endInString [])
  | backslash :: input =>
    if backslash = '\\' then
      match input with
      | [] => .error (.before .endInString [])
      | letter :: rest =>
        if letter = 'u' then
          let low := (readHexWord rest).andThen fun low =>
            if isLowSurrogate low.value then .stay (Char.ofNat (pairValue high low.value)) low.rest
            else .error (.before .loneSurrogate low.rest)
          (low.after letter).after backslash
        else
          .error (.atNext .brokenSurrogatePair (letter :: rest))
    else
      .error (.atNext .brokenSurrogatePair (backslash :: input))

def readUnicodeEscape (input : List Char) : Outcome Char input :=
  (readHexWord input).andThen fun word =>
    if isLowSurrogate word.value then .error (.before .loneSurrogate word.rest)
    else if isHighSurrogate word.value then readLowSurrogate word.value word.rest
    else .stay (Char.ofNat word.value) word.rest

def shortEscape? : Char → Option Char
  | '"' => some '"'
  | '\\' => some '\\'
  | '/' => some '/'
  | 'b' => some '\x08'
  | 'f' => some '\x0c'
  | 'n' => some '\n'
  | 'r' => some '\r'
  | 't' => some '\t'
  | _ => none

def readEscape (input : List Char) : Outcome Char input :=
  match input with
  | [] => .error (.before .endInString [])
  | letter :: rest =>
    if letter = 'u' then
      (readUnicodeEscape rest).after letter
    else
      match shortEscape? letter with
      | some character => .single character letter rest
      | none => .error (.atNext .invalidEscape (letter :: rest))

def readCharacters (input : List Char) : Outcome (List Char) input :=
  match input with
  | [] => .error (.before .endInString [])
  | character :: rest =>
    if character = '"' then
      .single [] character rest
    else if character = '\\' then
      match readEscape rest with
      | .error failure => .error failure
      | .ok escape =>
        have _within := escape.within
        (((readCharacters escape.rest).change (escape.value :: ·)).widen escape.within).after character
    else if character.toNat < 0x20 then
      .error (.before .controlCharacter rest)
    else
      ((readCharacters rest).change (character :: ·)).after character
  termination_by input.length
  decreasing_by all_goals simp only [List.length_cons]; omega

def readString (input : List Char) : Outcome String input := (readCharacters input).change String.ofList

end Listfile.Json
