/-
This file tells which plain scalars of YAML are nulls, booleans and numbers.
-/

import SchemaInference.Number.Literal

namespace SchemaInference.Yaml.Core

open Text

/-- A null may be written as nothing at all. -/
def isNull (text : String) : Bool :=
  ["", "null", "Null", "NULL", "~"].contains text

def truth? (text : String) : Option Bool :=
  if ["true", "True", "TRUE"].contains text then some true
  else if ["false", "False", "FALSE"].contains text then some false
  else none

def splitRadix? : List Char → Option (Nat × List Char)
  | '0' :: 'x' :: rest => some (16, rest)
  | '0' :: 'o' :: rest => some (8, rest)
  | '0' :: 'b' :: rest => some (2, rest)
  | _ => none

/-- A decimal with a needless leading zero is a text. -/
def isPadded (digits : List Char) : Bool :=
  digits.length > 1 && digits.head? == some '0' && digits.all isDigit

/-- A size has no sign and may have a radix. -/
def size? (text : List Char) : Option Nat :=
  match splitRadix? text with
  | some (radix, written) => if written.isEmpty then none else radixNumeral? radix written
  | none => if isPadded text then none else natural? text

/-- A natural may have a plus sign. -/
def unbounded? : List Char → Option Nat
  | '+' :: rest => size? rest
  | text => size? text

/-- The size of an integer with a minus sign. -/
def negated? : List Char → Option Nat
  | '-' :: rest => size? rest
  | _ => none

/-- A natural has 64 bits. -/
def natural? (text : String) : Option Nat :=
  (unbounded? text.toList).filter (· < UInt64.size)

/-- An integer has 64 bits, its sign included. -/
def integer? (text : String) : Option Int :=
  ((negated? text.toList).filter (· ≤ Nat.pow 2 63)).map fun size => -(size : Int)

/-- A number that has 128 bits, but not 64, is no value at all. -/
def isWide (text : String) : Bool :=
  (unbounded? text.toList).any (· < Nat.pow 2 128) ||
    (negated? text.toList).any (· ≤ Nat.pow 2 127)

def isInfinityOrNan (text : String) : Bool :=
  [".inf", ".Inf", ".INF", "+.inf", "+.Inf", "+.INF", "-.inf", "-.Inf", "-.INF", ".nan", ".NaN",
    ".NAN"].contains text

def withoutSign : List Char → List Char
  | '-' :: rest => rest
  | '+' :: rest => rest
  | text => text

def isFinite (text : List Char) : Bool :=
  ((Literal.readFree? text).bind Literal.double?).isSome

def isReal (text : String) : Bool :=
  isInfinityOrNan text || isFinite text.toList

end SchemaInference.Yaml.Core
