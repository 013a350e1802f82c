/-
This file defines the numbers of a document with their written form.
-/

import SchemaInference.Number.Shortest

namespace SchemaInference

/-- A number is a 64-bit natural, a negative 64-bit integer or a finite double. The negative
integer with the given predecessor is one less than minus that predecessor. -/
inductive Number where
  | natural (value : UInt64)
  | negative (predecessor : Fin (Nat.pow 2 63))
  | float (value : Binary64)
deriving DecidableEq

/-- This record fixes where a double is written without an exponent. -/
structure FloatLayout where
  leastPoint : Int
  greatestPoint : Int

namespace FloatLayout

/-- A point up to four places before the digits and up to sixteen after the first is written
positionally. -/
def standard : FloatLayout :=
  ⟨-4, 16⟩

def positional (digits : List Char) (point : Int) : List Char :=
  if point ≤ 0 then '0' :: '.' :: List.replicate (-point).toNat '0' ++ digits
  else
    let whole := digits.take point.toNat ++ List.replicate (point.toNat - digits.length) '0'
    let fraction := digits.drop point.toNat
    whole ++ '.' :: (if fraction.isEmpty then ['0'] else fraction)

/-- A positive exponent carries its sign. -/
def scientific (digits : List Char) (exponent : Int) : List Char :=
  let fraction := digits.drop 1
  let sign := if exponent < 0 then '-' else '+'
  digits.take 1 ++ (if fraction.isEmpty then [] else '.' :: fraction) ++
    'e' :: sign :: Text.digits exponent.natAbs

def magnitude (layout : FloatLayout) (decimal : Decimal) : List Char :=
  if decimal.significand = 0 then ['0', '.', '0']
  else
    let all := Text.digits decimal.significand
    let digits := (all.reverse.dropWhile (· == '0')).reverse
    let point := all.length + decimal.power
    if layout.leastPoint ≤ point ∧ point ≤ layout.greatestPoint then positional digits point
    else scientific digits (point - 1)

end FloatLayout

def signed (negative : Bool) (magnitude : List Char) : List Char :=
  if negative then '-' :: magnitude else magnitude

def Binary64.text (number : Binary64) : List Char :=
  signed number.negative (FloatLayout.standard.magnitude number.shortest)

namespace Number

def text : Number → List Char
  | natural value => Text.digits value.toNat
  | negative predecessor => '-' :: Text.digits (predecessor.val + 1)
  | float value => value.text

/-- A number is zero when its value is, whatever its sign and form. -/
def isZero : Number → Bool
  | natural value => value == 0
  | negative _ => false
  | float value => value.code.val == 0

end Number

end SchemaInference
