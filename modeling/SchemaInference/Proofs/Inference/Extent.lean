/-
This file bounds an assembled schema by the ceiling of its build and by the keys of its document.
-/

import SchemaInference.Proofs.Inference.Depth
import SchemaInference.Proofs.Inference.Exact
import SchemaInference.Proofs.Inference.Integrity
import SchemaInference.Proofs.Schema.Hook

namespace SchemaInference

namespace Schema

/-- The fields lead from the root to the composite type, the last one first. Each belongs to the
type that the fields before it lead to. -/
inductive Route (schema : Schema) : List Field → String → Prop where
  | root {fieldName name : String} {field : Field}
      (found : schema.root.field? fieldName = some field)
      (composite : field.type.compositeName? = some name) : Route schema [field] name
  | step {fieldName outer name : String} {object : ObjectType} {field : Field}
      {fields : List Field} (route : Route schema fields outer)
      (stored : schema.types.get? outer = some object)
      (found : object.field? fieldName = some field)
      (composite : field.type.compositeName? = some name) : Route schema (field :: fields) name

/-- The list levels that some fields cross together. -/
def crossed : List Field → Nat
  | [] => 0
  | field :: rest => field.type.listLevels + crossed rest

theorem Route.length_pos {schema : Schema} {fields : List Field} {name : String}
    (route : schema.Route fields name) : 0 < fields.length := by
  cases route <;> exact Nat.succ_pos _

/-- The ceiling and the number of keys bound the schema. A composite type has a route with few
enough fields and list levels, no field has more list levels than calls were left for it, and there
are no more composite types than keys. -/
structure Bounded (schema : Schema) (maxDepth keyCount : Nat) : Prop where
  routed : ∀ name, schema.types.contains name = true → ∃ fields, schema.Route fields name ∧
    fields.length - 1 + crossed fields ≤ maxDepth
  rootLevels : ∀ name field, schema.root.field? name = some field →
    field.type.listLevels ≤ maxDepth + 1
  typeLevels : ∀ outer object, schema.types.get? outer = some object →
    ∀ name field, object.field? name = some field → field.type.listLevels ≤ maxDepth
  few : schema.types.keys.length ≤ keyCount

end Schema

namespace Builder

/-- Every list level uses up a level. -/
theorem listLevels_sampledField_le (builder : Builder) (levels : Nat) (key : String)
    (sample : Json) : (builder.sampledField levels key sample).type.listLevels ≤ levels := by
  fun_induction sampledField with
  | case4 levels key first rest inductionHypothesis => exact Nat.succ_le_succ inductionHypothesis
  | _ => simp [Field.scalar, Field.object, Field.list, TypeRef.listLevels]

theorem listLevels_callField_object (builder : Builder) (levels : Nat) (key : String)
    (members : List (String × Json)) (pending : List String) :
    (builder.callField ⟨levels + 1, key, .object members, pending⟩).type.listLevels = 0 := rfl

theorem listLevels_callField_array (builder : Builder) (levels : Nat) (key : String)
    (first : Json) (rest : List Json) (pending : List String) :
    (builder.callField ⟨levels + 1, key, .array (first :: rest), pending⟩).type.listLevels =
      (builder.callField ⟨levels, key, itemSample first rest, pending⟩).type.listLevels + 1 := rfl

end Builder

namespace Assembler

open Builder

variable {assembler : Assembler} {document : Json}

/-- Fields lead to the composite type of the call's field. They and their list levels stand for the
depth of the call and for the list levels that are still before it. -/
def Routed (assembler : Assembler) (document : Json) (call : Call) : Prop :=
  ∀ name, ((assembler.builder document).callField call).type.compositeName? = some name →
    ∃ fields, (assembler.build document).Route fields name ∧
      fields.length + Schema.crossed fields + call.levels =
        assembler.options.maxDepth + 2 +
          ((assembler.builder document).callField call).type.listLevels

theorem routed_of_rootCalls (canonical : document.Canonical) {call : Call}
    (made : assembler.rootCalls document call) : assembler.Routed document call := by
  intro name composite
  refine ⟨_, .root (root_field?_of_rootCalls canonical made) composite, ?_⟩
  obtain ⟨⟨key, sample⟩, _, rfl⟩ := made
  simp only [List.length_singleton, Schema.crossed]
  omega

/-- A member adds a field to the route. The items of an array leave the route as it is, because the
field of the array has counted their list level. -/
theorem Routed.nested {outer inner : Call}
    (nested : (assembler.builder document).Nested (assembler.build document).types outer inner)
    (routed : assembler.Routed document outer) : assembler.Routed document inner := by
  intro name composite
  cases nested with
  | @member levels key member members pending fresh stored inside =>
      obtain ⟨fields, route, total⟩ := routed _ rfl
      refine ⟨_, route.step stored (field?_sampledType_of_mem levels inside) composite, ?_⟩
      rw [listLevels_callField_object] at total
      simp only [List.length_cons, Schema.crossed, callField] at total ⊢
      omega
  | item =>
      obtain ⟨fields, route, total⟩ := routed name composite
      refine ⟨fields, route, ?_⟩
      rw [listLevels_callField_array] at total
      dsimp only at total ⊢
      omega

/-- The call that opens a stored type has a route to it within the ceiling. -/
theorem exists_route (canonical : document.Canonical) {name : String}
    (known : (assembler.build document).types.contains name = true) :
    ∃ fields, (assembler.build document).Route fields name ∧
      fields.length - 1 + Schema.crossed fields ≤ assembler.options.maxDepth := by
  obtain ⟨object, stored⟩ := Option.isSome_iff_exists.mp known
  obtain ⟨levels, key, members, pending, rfl, _, routed⟩ := exists_opener
    (assembler.Routed document) Routed.nested (routed_of_rootCalls canonical) stored
  obtain ⟨fields, route, total⟩ := routed _ rfl
  refine ⟨fields, route, ?_⟩
  have nonempty := route.length_pos
  rw [listLevels_callField_object] at total
  dsimp only at total
  omega

/-- A field of a stored type is built with fewer levels than a field of the root. -/
theorem listLevels_le_of_stored {outer : String} {object : ObjectType}
    (stored : (assembler.build document).types.get? outer = some object) {name : String}
    {field : Field} (found : object.field? name = some field) :
    field.type.listLevels ≤ assembler.options.maxDepth := by
  obtain ⟨_, call, ⟨member, _, rfl⟩, opener, leads, opens⟩ := exists_makes stored
  cases opens with
  | @intro levels key members pending fresh =>
      have room : levels + 1 ≤ assembler.options.maxDepth + 1 := leads.levels_le
      rcases field?_sampledType.mp found with ⟨_, rfl⟩ | ⟨_, _, rfl⟩
      · exact (listLevels_sampledField_le _ _ _ _).trans (Nat.le_of_succ_le_succ room)
      · exact Nat.zero_le _

/-- Every stored type is named after a key of the document. -/
theorem mem_image_of_stored {name : String} {object : ObjectType}
    (stored : (assembler.build document).types.get? name = some object) :
    name ∈ document.keys.image assembler.namer := by
  have step : ∀ {outer inner : Call},
      (assembler.builder document).Nested (assembler.build document).types outer inner →
      (∃ depth, outer.Bounded (assembler.builder document) document depth) →
      ∃ depth, inner.Bounded (assembler.builder document) document depth := by
    rintro outer inner nested ⟨depth, bounded⟩
    cases nested with
    | member fresh _ inside => exact ⟨depth + 1, bounded.member rfl fresh inside⟩
    | item => exact ⟨depth + 1, bounded.item⟩
  obtain ⟨_, _, _, _, rfl, _, _, bounded⟩ := exists_opener _ step
    (fun made => ⟨0, bounded_of_rootCalls made⟩) stored
  exact Finset.mem_image_of_mem _ bounded.known

/-- The ceiling bounds every assembled schema. Every document that is read is canonical. -/
theorem assemble_bounded (assembler : Assembler) (document : Json)
    (canonical : document.Canonical) (schema : Schema)
    (assembled : assembler.assemble document = .ok schema) :
    schema.Bounded assembler.options.maxDepth document.keys.card := by
  obtain ⟨rfl, _⟩ := assemble_eq_ok_iff.mp assembled
  constructor
  case routed => exact fun name => exists_route canonical
  case rootLevels =>
    intro name field found
    rcases root_field? found with ⟨sample, _, rfl⟩ | ⟨_, _, rfl⟩
    · exact listLevels_sampledField_le _ _ _ _
    · exact Nat.zero_le _
  case typeLevels => exact fun outer object stored name field => listLevels_le_of_stored stored
  case few =>
    have named : ∀ name ∈ (assembler.build document).types.keys,
        name ∈ document.keys.image assembler.namer := by
      intro name listed
      obtain ⟨object, stored⟩ := Option.isSome_iff_exists.mp
        (Dict.contains_iff_mem_keys.mpr listed)
      exact mem_image_of_stored stored
    exact length_names_le (Dict.nodup_keys _) named

/-- The list of lists uses up the ceiling before its items open their type. -/
theorem assemble_bounded_nested :
    let document := Json.object [("a", .object [("a", .null)]),
      ("b", .array [.array [.object [], .null]])]
    let assembler := ofOptions (Options.standard.withMaxDepth 2)
    document.Canonical ∧ ∃ schema, assembler.assemble document = .ok schema ∧
      schema.Bounded 2 document.keys.card ∧ schema.types.keys = ["aObject", "bObject"] ∧
      ∃ fields, schema.Route fields "bObject" ∧
        fields.length - 1 + Schema.crossed fields ≤ 2 := by
  intro document assembler
  have canonical : document.Canonical := by
    simp only [document, Json.Canonical, Json.CanonicalMembers, Json.CanonicalItems,
      Entries.Ascending]
    decide
  have assembled : assembler.assemble document = .ok (assembler.build document) := by
    decide +kernel
  have listed : (assembler.build document).types.keys = ["aObject", "bObject"] := by
    decide +kernel
  have bounded := assemble_bounded assembler document canonical _ assembled
  refine ⟨canonical, _, assembled, bounded, listed, bounded.routed _ ?_⟩
  exact Dict.contains_iff_mem_keys.mpr (by simp [listed])

end Assembler

end SchemaInference
