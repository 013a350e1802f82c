/-
This file says when the fields of a schema agree with their names and types.
-/

import SchemaInference.Schema.Basic

namespace SchemaInference

/-- Every field has the name that it is stored under. Every field but the fallback has the strategy
of its type. -/
def ObjectType.Consistent (object : ObjectType) : Prop :=
  ∀ name field, object.field? name = some field →
    field.name = name ∧ (field.strategy = .ofType field.type ∨ field = .fallback name)

/-- The root and the stored types of the schema are consistent. -/
structure Schema.Consistent (schema : Schema) : Prop where
  root : schema.root.Consistent
  types : ∀ name object, schema.types.get? name = some object → object.Consistent

theorem Schema.Consistent.of_mem {schema : Schema} (consistent : schema.Consistent)
    {object : ObjectType} (inside : object ∈ schema.objectTypes) : object.Consistent := by
  rcases List.mem_cons.mp inside with rfl | stored
  · exact consistent.root
  · obtain ⟨name, found⟩ := Dict.mem_values_iff.mp stored
    exact consistent.types name object found

end SchemaInference
