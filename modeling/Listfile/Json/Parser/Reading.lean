import Listfile.Json.SyntaxError

set_option autoImplicit false

/-! Reading from the front of a text. A reader returns what it read and the rest, with the proof that the
rest is no longer than what it was given; a failure counts the bytes that lie behind its position. -/

namespace Listfile.Json

structure Failure where
  fault : Fault
  behind : Nat

def byteCount : List Char → Nat
  | [] => 0
  | character :: characters => character.utf8Size + byteCount characters

/-- The position in front of `rest`. -/
def Failure.before (fault : Fault) (rest : List Char) : Failure := ⟨fault, byteCount rest⟩

/-- The position after some bytes of `rest`, or the end of the text if it is shorter. -/
def Failure.inside (fault : Fault) (bytes : Nat) (rest : List Char) : Failure := ⟨fault, byteCount rest - bytes⟩

/-- The position after the first byte of `rest`, or the end of the text. -/
def Failure.atNext (fault : Fault) (rest : List Char) : Failure := .inside fault 1 rest

structure Reading (α : Type) (input : List Char) where
  value : α
  rest : List Char
  within : rest.length ≤ input.length

abbrev Outcome (α : Type) (input : List Char) := Except Failure (Reading α input)

namespace Reading

variable {α β : Type} {input : List Char}

def map (change : α → β) (reading : Reading α input) : Reading β input :=
  ⟨change reading.value, reading.rest, reading.within⟩

def widen {longer : List Char} (reading : Reading α input) (within : input.length ≤ longer.length) :
    Reading α longer :=
  ⟨reading.value, reading.rest, Nat.le_trans reading.within within⟩

def after (reading : Reading α input) (first : Char) : Reading α (first :: input) :=
  reading.widen (Nat.le_succ _)

end Reading

namespace Outcome

variable {α β : Type} {input : List Char}

def stay (value : α) (input : List Char) : Outcome α input := .ok ⟨value, input, Nat.le_refl _⟩

def ofExcept (value : Except Failure α) (input : List Char) : Outcome α input :=
  value.map fun value => ⟨value, input, Nat.le_refl _⟩

def single (value : α) (first : Char) (input : List Char) : Outcome α (first :: input) :=
  .ok ⟨value, input, Nat.le_succ _⟩

def change (outcome : Outcome α input) (change : α → β) : Outcome β input := outcome.map (Reading.map change)

def widen {longer : List Char} (outcome : Outcome α input) (within : input.length ≤ longer.length) :
    Outcome α longer :=
  outcome.map fun reading => reading.widen within

def after (outcome : Outcome α input) (first : Char) : Outcome α (first :: input) :=
  outcome.map fun reading => reading.after first

def andThen (outcome : Outcome α input) (next : (reading : Reading α input) → Outcome β reading.rest) :
    Outcome β input :=
  match outcome with
  | .ok reading => (next reading).widen reading.within
  | .error failure => .error failure

end Outcome

def isBlank (character : Char) : Bool :=
  character == ' ' || character == '\t' || character == '\n' || character == '\r'

def skipBlanks (input : List Char) : List Char := input.dropWhile isBlank

theorem length_dropWhile_le {α : Type} (test : α → Bool) (items : List α) :
    (items.dropWhile test).length ≤ items.length := by
  induction items with
  | nil => simp
  | cons item items ih =>
    simp only [List.dropWhile_cons]
    split
    · exact Nat.le_succ_of_le ih
    · exact Nat.le_refl _

theorem length_skipBlanks_le (input : List Char) : (skipBlanks input).length ≤ input.length :=
  length_dropWhile_le _ _

def readWord : (word input : List Char) → Outcome Unit input
  | [], input => .stay () input
  | _ :: _, [] => .error (.before .endInValue [])
  | letter :: word, next :: input =>
    if letter = next then (readWord word input).after next
    else .error (.atNext .expectedWord (next :: input))

end Listfile.Json
