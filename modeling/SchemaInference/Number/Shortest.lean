/-
This file finds the shortest decimal that rounds to a given double.
-/

import SchemaInference.Number.Binary64
import SchemaInference.Text.Numeral

namespace SchemaInference

/-- A decimal is a natural significand times a power of ten. -/
structure Decimal where
  significand : Nat
  power : Int
deriving DecidableEq

namespace Binary64

/-- The reals that round to a double form an interval. Its ends are kept in quarter units, and
they belong to the interval when the significand is even. -/
structure Interval where
  lower : Nat
  upper : Nat
  closed : Bool

def interval (number : Binary64) : Interval where
  lower := 4 * number.units -
    (if number.significand == Nat.pow 2 52 && number.exponent != 0 then 1 else 2) *
      Nat.pow 2 number.exponent
  upper := 4 * number.units + 2 * Nat.pow 2 number.exponent
  closed := number.significand % 2 == 0

def quartersPerOne : Nat :=
  4 * unitsPerOne

/-- A decimal is compared with quarter units after both are scaled to naturals. -/
def Interval.contains (interval : Interval) (decimal : Decimal) : Bool :=
  let scale := Nat.pow 10 (-decimal.power).toNat
  let value := decimal.significand * Nat.pow 10 decimal.power.toNat * quartersPerOne
  if interval.closed then interval.lower * scale ≤ value && value ≤ interval.upper * scale
  else interval.lower * scale < value && value < interval.upper * scale

/-- The position of the decimal point counts from the first significant digit of a fraction. -/
def pointPosition (numerator denominator : Nat) : Int :=
  if denominator ≤ numerator then (Text.digits (numerator / denominator)).length
  else
    let size := (Text.digits (denominator / numerator)).length
    if numerator * Nat.pow 10 (size - 1) = denominator then 2 - size else 1 - size

def distance (number : Binary64) (decimal : Decimal) : Nat :=
  let value := decimal.significand * Nat.pow 10 decimal.power.toNat * quartersPerOne
  let exact := 4 * number.units * Nat.pow 10 (-decimal.power).toNat
  (value - exact) + (exact - value)

/-- On the grid of one power of ten, only the two neighbours of a number can be its nearest
decimals. -/
def neighbours (number : Binary64) (power : Int) : Decimal × Decimal :=
  let below :=
    4 * number.units * Nat.pow 10 (-power).toNat / (quartersPerOne * Nat.pow 10 power.toNat)
  (⟨below, power⟩, ⟨below + 1, power⟩)

/-- Of two neighbours the nearer is chosen, and at equal distance the even one. -/
def nearer (number : Binary64) (below above : Decimal) : Decimal :=
  let down := number.distance below
  let up := number.distance above
  if down < up || (down == up && below.significand % 2 == 0) then below else above

/-- This function chooses among the neighbours that round back. -/
def onGrid? (number : Binary64) (power : Int) : Option Decimal :=
  let (below, above) := number.neighbours power
  match number.interval.contains below, number.interval.contains above with
  | true, true => some (number.nearer below above)
  | true, false => some below
  | false, true => some above
  | false, false => none

/-- This function tries grids from the coarsest and stops at the first that has a hit. -/
def firstOnGrid (number : Binary64) : Nat → Int → Decimal
  | 0, power => (number.neighbours power).1
  | finer + 1, power => (number.onGrid? power).getD (number.firstOnGrid finer (power - 1))

/-- Seventeen digits always tell a double apart from its neighbours. -/
def shortest (number : Binary64) : Decimal :=
  if number.units = 0 then ⟨0, 0⟩
  else number.firstOnGrid 17 (pointPosition number.units unitsPerOne - 1)

end Binary64

end SchemaInference
