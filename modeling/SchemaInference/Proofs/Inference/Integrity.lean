/-
This file shows that the stored types of an assembled schema are exactly the types that fields lead
to from the root.
-/

import SchemaInference.Proofs.Inference.Assembled
import SchemaInference.Proofs.Json.Canonical

namespace SchemaInference

/-- A reference without a composite type has a built-in base. -/
theorem TypeRef.baseName_of_compositeName?_eq_none {type : TypeRef}
    (plain : type.compositeName? = none) : type.baseName ∈ ScalarKind.builtinNames := by
  induction type with
  | scalar kind => cases kind <;> decide
  | object name => cases plain
  | list element inductionHypothesis => exact inductionHypothesis plain

theorem TypeRef.baseName_of_compositeName? {type : TypeRef} {name : String}
    (composite : type.compositeName? = some name) : type.baseName = name := by
  induction type with
  | scalar kind => cases composite
  | object other => exact Option.some.inj composite
  | list element inductionHypothesis => exact inductionHypothesis composite

namespace Schema

/-- A schema has no dangling reference when the types that its fields refer to are stored. -/
theorem isDefined_of_contains {schema : Schema}
    (closed : ∀ object ∈ schema.objectTypes, ∀ name, object.Refers name →
      schema.types.contains name = true)
    {object : ObjectType} (inside : object ∈ schema.objectTypes) {field : Field}
    (member : field ∈ object.fields.values) : isDefined schema.types field.type = true := by
  obtain ⟨fieldName, found⟩ := Dict.mem_values_iff.mp member
  unfold isDefined
  cases composite : field.type.compositeName? with
  | none =>
      have builtin := TypeRef.baseName_of_compositeName?_eq_none composite
      simp [builtin]
  | some name =>
      have stored := closed object inside name ⟨fieldName, field, found, composite⟩
      rw [TypeRef.baseName_of_compositeName? composite, stored, Bool.or_true]

end Schema

namespace Assembler

open Builder

variable {assembler : Assembler} {document : Json}

theorem contains_of_reachable {name : String}
    (reached : (assembler.build document).Reachable name) :
    (assembler.build document).types.contains name = true := by
  cases reached with
  | root refers => exact types_contains_of_root_refers refers
  | step _ stored refers => exact types_contains_of_refers stored refers

theorem ascending_rootMembers {document : Json} (canonical : document.Canonical) :
    Entries.Ascending (rootMembers document) := by
  cases document with
  | object members => exact canonical.1
  | _ => exact List.Pairwise.nil

/-- The root has the field of every call for it. The names in a canonical document are distinct, so
no field takes the place of another. -/
theorem root_field?_of_rootCalls (canonical : document.Canonical) {call : Call}
    (made : assembler.rootCalls document call) :
    (assembler.build document).root.field? call.key =
      some ((assembler.builder document).callField call) := by
  obtain ⟨⟨key, sample⟩, inside, rfl⟩ := made
  obtain ⟨last, member, found⟩ := root_field?_of_mem inside
  have ascending := ascending_rootMembers canonical
  have same : last = sample := Option.some.inj
    ((ascending.lookup_of_mem member).symm.trans (ascending.lookup_of_mem inside))
  rw [same] at found
  exact found

/-- The field of a call refers only to reachable types when fields lead to the call. -/
def LeadsToReachable (assembler : Assembler) (document : Json) (call : Call) : Prop :=
  ∀ name, ((assembler.builder document).callField call).type.compositeName? = some name →
    (assembler.build document).Reachable name

theorem leadsToReachable_of_nested {outer inner : Call}
    (nested : (assembler.builder document).Nested (assembler.build document).types outer inner)
    (reached : assembler.LeadsToReachable document outer) :
    assembler.LeadsToReachable document inner := by
  intro name composite
  cases nested with
  | @member levels _ _ _ _ _ stored inside =>
      have outerReached := reached _ rfl
      have present := field?_sampledType_of_mem levels inside
      exact outerReached.step stored ⟨_, _, present, composite⟩
  | item => exact reached name composite

theorem reachable_of_contains (canonical : document.Canonical) {name : String}
    (known : (assembler.build document).types.contains name = true) :
    (assembler.build document).Reachable name := by
  obtain ⟨object, stored⟩ := Option.isSome_iff_exists.mp known
  have start : ∀ {call : Call}, assembler.rootCalls document call →
      assembler.LeadsToReachable document call := fun made _ composite =>
    .root ⟨_, _, root_field?_of_rootCalls canonical made, composite⟩
  obtain ⟨_, _, _, _, rfl, _, reached⟩ := exists_opener
    (assembler.LeadsToReachable document) leadsToReachable_of_nested start stored
  exact reached _ rfl

/-- The assembly never fails for a reference to a missing type. In an assembled schema the stored
types are exactly those that fields lead to from the root. Every document that is read is
canonical. -/
theorem assemble_types_reachable (assembler : Assembler) (document : Json)
    (canonical : document.Canonical) :
    (∀ message, assembler.assemble document ≠ .error (.assembly message)) ∧
      ∀ schema, assembler.assemble document = .ok schema →
        ∀ name, schema.types.contains name = true ↔ schema.Reachable name := by
  constructor
  · intro message failed
    obtain ⟨object, inside, field, member, undefined⟩ :=
      Schema.exists_of_validate_eq_assembly (assemble_eq_error_iff.mp failed)
    have defined := Schema.isDefined_of_contains
      (fun _ inside _ refers => types_contains_of_objectTypes inside refers) inside member
    rw [defined] at undefined
    cases undefined
  · intro schema assembled name
    obtain ⟨rfl, _⟩ := assemble_eq_ok_iff.mp assembled
    exact ⟨reachable_of_contains canonical, contains_of_reachable⟩

/-- This document holds a key inside itself and a list of lists. -/
theorem assemble_types_reachable_nested :
    (Json.object [("a", .object [("a", .null)]), ("b", .array [.array [.object [], .null]])]).Canonical ∧
      ∃ schema, (ofOptions .standard).assemble
          (.object [("a", .object [("a", .null)]), ("b", .array [.array [.object [], .null]])]) =
          .ok schema ∧
        schema.types.keys = ["aObject", "bObject"] ∧
        schema.Reachable "aObject" ∧ schema.Reachable "bObject" := by
  have canonical : (Json.object
      [("a", .object [("a", .null)]), ("b", .array [.array [.object [], .null]])]).Canonical := by
    simp only [Json.Canonical, Json.CanonicalMembers, Json.CanonicalItems, Entries.Ascending]
    decide
  have reachable := (assemble_types_reachable (ofOptions .standard) _ canonical).2 _ rfl
  exact ⟨canonical, _, rfl, rfl, (reachable "aObject").mp rfl, (reachable "bObject").mp rfl⟩

end Assembler

end SchemaInference
