/-
This file defines the fields of composite types.
-/

import SchemaInference.Path
import SchemaInference.Schema.TypeRef

namespace SchemaInference

structure Field where
  name : String
  type : TypeRef
  strategy : Strategy
deriving DecidableEq

namespace Field

def scalar (name : String) (kind : ScalarKind) : Field :=
  ⟨name, .scalar kind, .scalar kind⟩

def object (name typeName : String) : Field :=
  ⟨name, .object typeName, .object⟩

def list (name : String) (element : TypeRef) : Field :=
  ⟨name, .list element, .array⟩

/-- The field of an otherwise empty type is always null. -/
def fallback (name : String) : Field :=
  ⟨name, .scalar .string, .null⟩

/-- This function counts the segments after the last one that names the field. -/
def trailing (field : Field) (path : Path) : Nat :=
  if path.any fun segment => segment.name == field.name then
    (path.reverse.takeWhile fun segment => segment.name != field.name).length
  else 0

/-- Each segment after the field steps one list level into its type. -/
def strategyAt (field : Field) (path : Path) : Strategy :=
  match field.trailing path with
  | 0 => field.strategy
  | levels + 1 =>
      match field.type.unwrap? (levels + 1) with
      | some type => .ofType type
      | none => .null

end Field

end SchemaInference
