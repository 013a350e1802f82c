/-
This file models the finite numbers of the IEEE 754 binary64 format and rounds fractions to them.
-/

namespace SchemaInference

/-- A finite double has a sign and a magnitude code. The codes have the order of the magnitudes. -/
structure Binary64 where
  negative : Bool
  code : Fin (2047 * Nat.pow 2 52)
deriving DecidableEq

namespace Binary64

/-- This function divides to the nearest integer and gives a half to the even neighbour. -/
def roundDiv (numerator denominator : Nat) : Nat :=
  let quotient := numerator / denominator
  let twice := 2 * (numerator % denominator)
  if denominator < twice || (twice == denominator && quotient % 2 == 1) then quotient + 1
  else quotient

def zero (negative : Bool) : Binary64 :=
  ⟨negative, ⟨0, by decide⟩⟩

def significand (number : Binary64) : Nat :=
  if number.code.val < Nat.pow 2 52 then number.code.val
  else Nat.pow 2 52 + number.code.val % Nat.pow 2 52

/-- The binary exponent counts from the smallest positive double. -/
def exponent (number : Binary64) : Nat :=
  number.code.val / Nat.pow 2 52 - 1

/-- The magnitude is this multiple of the smallest positive double. -/
def units (number : Binary64) : Nat :=
  number.significand * Nat.pow 2 number.exponent

/-- The reciprocal of the smallest positive double. -/
def unitsPerOne : Nat :=
  Nat.pow 2 1074

/-- This function rounds a fraction to the nearest double. It has no value above the range. -/
def nearest? (negative : Bool) (numerator denominator : Nat) : Option Binary64 :=
  let scaled := numerator * unitsPerOne
  let exponent := Nat.log2 (scaled / denominator) - 52
  let code := exponent * Nat.pow 2 52 + roundDiv scaled (denominator * Nat.pow 2 exponent)
  if finite : code < 2047 * Nat.pow 2 52 then some ⟨negative, ⟨code, finite⟩⟩ else none

/-- This function rounds the number with the given decimal significand and power of ten.
The two bounds on the position of its first digit keep the powers small. -/
def ofDecimal? (negative : Bool) (digits : List Nat) (power : Int) : Option Binary64 :=
  let significant := digits.dropWhile (· == 0)
  let position := significant.length + power
  let significand := significant.foldl (fun value digit => 10 * value + digit) 0
  if significand = 0 ∨ position < -330 then some (zero negative)
  else if 310 < position then none
  else nearest? negative (significand * Nat.pow 10 power.toNat) (Nat.pow 10 (-power).toNat)

end Binary64

end SchemaInference
