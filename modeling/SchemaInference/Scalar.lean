/-
This file defines the scalar kinds of a schema and turns values into them.
-/

import SchemaInference.Json.Printer
import SchemaInference.Number.Literal
import SchemaInference.Text.Blank

namespace SchemaInference

inductive ScalarKind where
  | string
  | float
  | boolean
deriving DecidableEq

namespace ScalarKind

/-- Numbers and booleans have kinds of their own. Every other value counts as a string. -/
def of : Json → ScalarKind
  | .number _ => float
  | .boolean _ => boolean
  | _ => string

/-- The name of the built-in type. -/
def typeName : ScalarKind → String
  | string => "String"
  | float => "Float"
  | boolean => "Boolean"

def builtinNames : List String :=
  [typeName string, typeName float, typeName boolean]

def one : Binary64 :=
  ⟨false, ⟨1023 * Nat.pow 2 52, by decide⟩⟩

/-- A text has the value of the double that it spells, without blanks around it. -/
def textDouble? (text : String) : Option Binary64 :=
  (Literal.readFree? (Text.trim text.toList)).bind Literal.double?

/-- Any value but null has a string form. -/
def stringOf? : Json → Option Json
  | .null => none
  | .string text => some (.string text)
  | value => some (.string value.compactText)

def floatOf? : Json → Option Json
  | .number value => some (.number value)
  | .string text => (textDouble? text).map fun double => .number (.float double)
  | .boolean value => some (.number (.float (if value then one else Binary64.zero false)))
  | _ => none

def booleanOf? : Json → Option Json
  | .boolean value => some (.boolean value)
  | .number value => some (.boolean (!value.isZero))
  | .string text =>
      if text = "true" then some (.boolean true)
      else if text = "false" then some (.boolean false)
      else none
  | _ => none

/-- This function gives the form of a value in a scalar kind. -/
def coerce? : ScalarKind → Json → Option Json
  | string => stringOf?
  | float => floatOf?
  | boolean => booleanOf?

end ScalarKind

end SchemaInference
