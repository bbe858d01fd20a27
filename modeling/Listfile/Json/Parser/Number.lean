import Listfile.Json.Basic
import Listfile.Json.Parser.Reading

set_option autoImplicit false

/-! Reading numbers. The digits are collected in a whole number below `2 ^ 64`; digits for which there is
no room count as powers of ten before the point and are ignored after it. A number without point and
exponent stays an integer if it fits into 64 bits. -/

namespace Listfile.Json

def isDigit (character : Char) : Bool := decide ('0' ≤ character) && decide (character ≤ '9')

def digitValue (character : Char) : Nat := character.toNat - '0'.toNat

def digitsOf (input : List Char) : List Char := input.takeWhile isDigit

def afterDigits (input : List Char) : List Char := input.dropWhile isDigit

theorem length_afterDigits_le (input : List Char) : (afterDigits input).length ≤ input.length :=
  length_dropWhile_le _ _

/-- Appends digits to a whole number while the result stays within `limit`, and returns it with the
digits that are left. -/
def collect (limit : Nat) : Nat → List Char → Nat × List Char
  | value, [] => (value, [])
  | value, digit :: digits =>
    if value * 10 + digitValue digit ≤ limit then collect limit (value * 10 + digitValue digit) digits
    else (value, digit :: digits)

def greatestWord : Nat := Nat.pow 2 64 - 1

def greatestExponentWord : Nat := Nat.pow 2 31 - 1

def binaryNumber (negative : Bool) (digits : Nat) (power : Int) (rest : List Char) : Except Failure JsonNumber :=
  match Magnitude.ofDecimal? digits power with
  | some magnitude => .ok (.binary ⟨negative, magnitude⟩)
  | none => .error (.before .numberTooLarge rest)

def exponentSign : List Char → Bool × List Char
  | [] => (false, [])
  | first :: rest => if first = '+' then (false, rest) else if first = '-' then (true, rest) else (false, first :: rest)

theorem length_exponentSign_le (input : List Char) : (exponentSign input).2.length ≤ input.length := by
  cases input with
  | nil => exact Nat.le_refl _
  | cons first rest =>
    simp only [exponentSign]
    repeat' split
    all_goals simp

/-- The digits of an exponent. An exponent that is too long for 31 bits makes any number zero or too
large. -/
def readPower (negative : Bool) (significand : Nat) (power : Int) (downward : Bool) (input : List Char) :
    Outcome JsonNumber input :=
  match input with
  | [] => .error (.before .endInValue [])
  | digit :: digits =>
    if isDigit digit then
      let rest := afterDigits digits
      let number : Except Failure JsonNumber :=
        match collect greatestExponentWord 0 (digit :: digitsOf digits) with
        | (exponent, []) =>
          let shift := Int.ofNat exponent
          binaryNumber negative significand (if downward then power - shift else power + shift) rest
        | (_, _ :: left) =>
          if significand ≠ 0 ∧ downward = false then .error (.before .numberTooLarge (left ++ rest))
          else .ok (.binary ⟨negative, .zero⟩)
      ((Outcome.ofExcept number rest).widen (length_afterDigits_le digits)).after digit
    else
      .error (.atNext .invalidNumber (digit :: digits))

def readExponent (negative : Bool) (significand : Nat) (power : Int) (input : List Char) : Outcome JsonNumber input :=
  (readPower negative significand power (exponentSign input).1 (exponentSign input).2).widen
    (length_exponentSign_le input)

def isExponentLetter (character : Char) : Bool := character == 'e' || character == 'E'

def readAfterFraction (negative : Bool) (significand : Nat) (power : Int) (input : List Char) :
    Outcome JsonNumber input :=
  match input with
  | [] => .ofExcept (binaryNumber negative significand power []) []
  | next :: rest =>
    if isExponentLetter next then (readExponent negative significand power rest).after next
    else .ofExcept (binaryNumber negative significand power (next :: rest)) (next :: rest)

def readFraction (negative : Bool) (significand : Nat) (power : Int) (input : List Char) : Outcome JsonNumber input :=
  match digitsOf input with
  | [] => .error (if input.isEmpty then .before .endInValue [] else .atNext .invalidNumber input)
  | digits =>
    let (collected, left) := collect greatestWord significand digits
    let taken := Int.ofNat (digits.length - left.length)
    (readAfterFraction negative collected (power - taken) (afterDigits input)).widen (length_afterDigits_le input)

def wholeNumber (negative : Bool) (significand : Nat) (rest : List Char) : Except Failure JsonNumber :=
  if negative = false then .ok (.integer (Int.ofNat significand))
  else if significand = 0 ∨ significand > Nat.pow 2 63 then binaryNumber true significand 0 rest
  else .ok (.integer (-Int.ofNat significand))

/-- What may follow the digits before the point; `left` of them found no room. -/
def readAfterWhole (negative : Bool) (significand left : Nat) (input : List Char) : Outcome JsonNumber input :=
  match input with
  | [] =>
    if left = 0 then .ofExcept (wholeNumber negative significand []) []
    else readAfterFraction negative significand (Int.ofNat left) []
  | next :: rest =>
    if next = '.' then
      (readFraction negative significand (Int.ofNat left) rest).after next
    else if left = 0 ∧ isExponentLetter next = false then
      .ofExcept (wholeNumber negative significand (next :: rest)) (next :: rest)
    else
      readAfterFraction negative significand (Int.ofNat left) (next :: rest)

def readNumber (negative : Bool) (input : List Char) : Outcome JsonNumber input :=
  match input with
  | [] => .error (.before .endInValue [])
  | first :: rest =>
    if first = '0' then
      match digitsOf rest with
      | [] => (readAfterWhole negative 0 0 rest).after first
      | _ :: _ => .error (.atNext .invalidNumber rest)
    else if isDigit first then
      let (significand, left) := collect greatestWord 0 (first :: digitsOf rest)
      ((readAfterWhole negative significand left.length (afterDigits rest)).widen (length_afterDigits_le rest)).after
        first
    else
      .error (.atNext .invalidNumber (first :: rest))

end Listfile.Json
