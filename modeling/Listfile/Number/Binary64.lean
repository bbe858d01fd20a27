set_option autoImplicit false

/-! Finite binary floating-point numbers with 53 significant bits, kept as exact integers. A quotient of
integers is rounded to the nearest such number, and of two equally near ones to the even one. Signs
are added outside: a magnitude is never negative. -/

namespace Listfile

structure Magnitude where
  significand : Nat
  exponent : Int
  deriving DecidableEq, Repr

namespace Magnitude

def leastExponent : Int := -1074

def greatestExponent : Int := 971

/-- The least significand with all its bits in use. -/
def leastFull : Nat := Nat.pow 2 52

def zero : Magnitude := ⟨0, leastExponent⟩

/-- The quotient as a whole number, the nearest one, and the even one of two. -/
def roundQuotient (numerator denominator : Nat) : Nat :=
  let whole := numerator / denominator
  let rest := numerator % denominator
  if 2 * rest > denominator ∨ (2 * rest = denominator ∧ whole % 2 = 1) then whole + 1 else whole

/-- Numerator and denominator of a quotient after division by `2 ^ exponent`. -/
def scaled (numerator denominator : Nat) (exponent : Int) : Nat × Nat :=
  (numerator * Nat.pow 2 (-exponent).toNat, denominator * Nat.pow 2 exponent.toNat)

/-- The exponent that gives the quotient 53 bits, or the least one. -/
def exponentFor (numerator denominator : Nat) : Int :=
  let guess : Int := Int.ofNat numerator.log2 - Int.ofNat denominator.log2 - 52
  let (above, below) := scaled numerator denominator guess
  max (if above / below < leastFull then guess - 1 else guess) leastExponent

/-- The nearest number to a quotient, unless it is too large. -/
def ofQuotient? (numerator denominator : Nat) : Option Magnitude :=
  if numerator = 0 then
    some zero
  else
    let exponent := exponentFor numerator denominator
    let (above, below) := scaled numerator denominator exponent
    let significand := roundQuotient above below
    let rounded : Magnitude :=
      if significand = 2 * leastFull then ⟨leastFull, exponent + 1⟩ else ⟨significand, exponent⟩
    if rounded.exponent > greatestExponent then none else some rounded

def numerator (magnitude : Magnitude) : Nat := magnitude.significand * Nat.pow 2 magnitude.exponent.toNat

def denominator (magnitude : Magnitude) : Nat := Nat.pow 2 (-magnitude.exponent).toNat

def mul? (left right : Magnitude) : Option Magnitude :=
  ofQuotient? (left.numerator * right.numerator) (left.denominator * right.denominator)

def div? (left right : Magnitude) : Option Magnitude :=
  ofQuotient? (left.numerator * right.denominator) (left.denominator * right.numerator)

def powerOfTen? (power : Nat) : Option Magnitude := ofQuotient? (Nat.pow 10 power) 1

/-- The greatest power of ten that one multiplication or division takes. -/
def greatestPower : Nat := 308

/-- `value · 10 ^ -power`, in divisions by at most `10 ^ 308` at a time. -/
def scaleDown (value : Magnitude) (power : Nat) : Option Magnitude :=
  if power ≤ greatestPower then
    (powerOfTen? power).bind value.div?
  else if value.significand = 0 then
    some value
  else
    ((powerOfTen? greatestPower).bind value.div?).bind (scaleDown · (power - greatestPower))
  termination_by power
  decreasing_by simp only [greatestPower] at *; omega

/-- `value · 10 ^ power`, in one multiplication. -/
def scaleUp (value : Magnitude) (power : Nat) : Option Magnitude :=
  if power ≤ greatestPower then (powerOfTen? power).bind value.mul?
  else if value.significand = 0 then some value
  else none

/-- A decimal number by two roundings: of its digits, then of their product with the power of ten. -/
def ofDecimal? (digits : Nat) (power : Int) : Option Magnitude :=
  (ofQuotient? digits 1).bind fun value =>
    if power < 0 then value.scaleDown power.natAbs else value.scaleUp power.toNat

end Magnitude

/-- A signed number; a zero has a sign too. -/
structure Binary64 where
  negative : Bool
  magnitude : Magnitude
  deriving DecidableEq, Repr

end Listfile
