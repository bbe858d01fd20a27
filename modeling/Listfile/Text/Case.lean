import Listfile.Text.CaseTables

set_option autoImplicit false

/-! Upper and lower case of whole texts. One letter may become several, and a capital sigma becomes
its final form at the end of a word. `uppercase` works letter by letter; `lowercase` looks at the
letters on both sides of a sigma. -/

namespace Listfile.Text

def CaseRun.image? (run : CaseRun) (code : Nat) : Option Nat :=
  if run.first ≤ code ∧ code ≤ run.last ∧ (code - run.first) % run.stride = 0 then
    some (Int.ofNat code + run.shift).toNat
  else
    none

/-- The letters that replace one letter under a table of expansions and runs. -/
def mapLetter (expansions : List (Nat × List Nat)) (runs : List CaseRun) (letter : Char) : List Char :=
  match expansions.lookup letter.toNat with
  | some codes => codes.map Char.ofNat
  | none =>
    match runs.findSome? (CaseRun.image? · letter.toNat) with
    | some code => [Char.ofNat code]
    | none => [letter]

def upperLetter (letter : Char) : List Char := mapLetter upperExpansions upperRuns letter

def lowerLetter (letter : Char) : List Char := mapLetter lowerExpansions lowerRuns letter

def inRanges (ranges : List (Nat × Nat)) (letter : Char) : Bool :=
  ranges.any fun range => decide (range.1 ≤ letter.toNat) && decide (letter.toNat ≤ range.2)

def isCased (letter : Char) : Bool := inRanges casedRanges letter

def isCaseIgnorable (letter : Char) : Bool := inRanges caseIgnorableRanges letter

def meetsCased (letters : List Char) : Bool :=
  match letters.dropWhile isCaseIgnorable with
  | [] => false
  | letter :: _ => isCased letter

/-- Lower case of `letters`, where `before` holds what precedes them, nearest first. -/
def lowerAfter (before : List Char) : List Char → List Char
  | [] => []
  | letter :: rest =>
    (if letter = 'Σ' then [if meetsCased before && !meetsCased rest then 'ς' else 'σ']
      else lowerLetter letter) ++ lowerAfter (letter :: before) rest

def uppercase (text : String) : String := String.ofList (text.toList.flatMap upperLetter)

def lowercase (text : String) : String := String.ofList (lowerAfter [] text.toList)

def capitalize (text : String) : String :=
  match text.toList with
  | [] => ""
  | first :: rest => String.ofList (upperLetter first ++ rest)

end Listfile.Text
