import Listfile.Number.Binary64

set_option autoImplicit false

/-! The shortest decimal text that reads back as the same number. Every real number nearer to the
number than to its neighbours reads back as it; of the decimals with the fewest digits among those the
nearest is taken. -/

namespace Listfile

structure Decimal where
  digits : Nat
  power : Int
  deriving DecidableEq, Repr

namespace Magnitude

/-- The bounds of the numbers that read back as this one, and the number itself, in quarters of its
last binary place. The lower bound is nearer where the places below are finer. -/
def quarters (magnitude : Magnitude) : Nat × Nat × Nat :=
  let middle := 4 * magnitude.significand
  let below := if magnitude.significand = leastFull ∧ magnitude.exponent > leastExponent then 1 else 2
  (middle - below, middle, middle + 2)

/-- The two factors by which quarters of `2 ^ exponent` and units of `10 ^ power` become comparable. -/
def factors (exponent power : Int) : Nat × Nat :=
  let binary := exponent - 2
  (Nat.pow 2 binary.toNat * Nat.pow 10 (-power).toNat, Nat.pow 10 power.toNat * Nat.pow 2 (-binary).toNat)

def decimalAt? (magnitude : Magnitude) (power : Int) : Option Nat :=
  let (low, middle, high) := magnitude.quarters
  let (binary, decimal) := factors magnitude.exponent power
  let admits (digits : Nat) : Bool :=
    if magnitude.significand % 2 = 0 then low * binary ≤ digits * decimal && digits * decimal ≤ high * binary
    else low * binary < digits * decimal && digits * decimal < high * binary
  let lower := middle * binary / decimal
  let upper := lower + 1
  if admits lower && admits upper then
    let twice := 2 * middle * binary
    let between := (lower + upper) * decimal
    some (if twice < between ∨ (twice = between ∧ lower % 2 = 0) then lower else upper)
  else if admits lower then some lower
  else if admits upper then some upper
  else none

def shortestFrom (magnitude : Magnitude) : Nat → Int → Decimal
  | 0, power => ⟨0, power⟩
  | attempts + 1, power =>
    match magnitude.decimalAt? power with
    | some digits => ⟨digits, power⟩
    | none => shortestFrom magnitude attempts (power - 1)

/-- The shortest decimal of a number that is not zero. No number needs a power outside 308 to -324. -/
def shortest (magnitude : Magnitude) : Decimal := magnitude.shortestFrom 640 308

end Magnitude

/-- Numbers are written with a point when the exponent of their first digit is in this range. -/
def Decimal.positional (exponent : Int) : Bool := decide (-5 ≤ exponent) && decide (exponent ≤ 15)

/-- The text of a decimal that is not zero: with a point and at least one digit after it, or with a
signed exponent and a point only between digits. -/
def Decimal.text (decimal : Decimal) : String :=
  let digits := (Nat.repr decimal.digits).toList
  let exponent := decimal.power + Int.ofNat digits.length - 1
  let characters :=
    if Decimal.positional exponent then
      if 0 ≤ decimal.power then
        digits ++ List.replicate decimal.power.toNat '0' ++ ['.', '0']
      else if 0 ≤ exponent then
        digits.take (exponent.toNat + 1) ++ '.' :: digits.drop (exponent.toNat + 1)
      else
        ['0', '.'] ++ List.replicate (exponent.natAbs - 1) '0' ++ digits
    else
      digits.take 1 ++ (if digits.length = 1 then [] else '.' :: digits.drop 1) ++
        ['e', if exponent < 0 then '-' else '+'] ++ (Nat.repr exponent.natAbs).toList
  String.ofList characters

def Binary64.text (number : Binary64) : String :=
  (if number.negative then "-" else "") ++
    (if number.magnitude.significand = 0 then "0.0" else number.magnitude.shortest.text)

end Listfile
