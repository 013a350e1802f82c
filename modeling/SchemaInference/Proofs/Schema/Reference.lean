/-
This file follows the references between the composite types of a schema.
-/

import SchemaInference.Schema.Basic

namespace SchemaInference

/-- This function gives the composite type inside any number of lists. -/
def TypeRef.compositeName? : TypeRef → Option String
  | scalar _ => none
  | object name => some name
  | list element => element.compositeName?

/-- Some field of the type refers to the composite type. -/
def ObjectType.Refers (object : ObjectType) (name : String) : Prop :=
  ∃ fieldName field, object.field? fieldName = some field ∧
    field.type.compositeName? = some name

/-- Fields lead from the root to the composite type. -/
inductive Schema.Reachable (schema : Schema) : String → Prop where
  | root {name : String} (refers : schema.root.Refers name) : Reachable schema name
  | step {outer name : String} {object : ObjectType} (reached : Reachable schema outer)
      (stored : schema.types.get? outer = some object) (refers : object.Refers name) :
      Reachable schema name

end SchemaInference
