/-
This file describes the schema that an assembler builds from a document.
-/

import SchemaInference.Inference.Assembly
import SchemaInference.Proofs.Inference.Growth
import SchemaInference.Proofs.Schema.Checked
import SchemaInference.Proofs.Schema.Consistent

namespace SchemaInference

/-- Different keys have different names. -/
theorem Namer.withSuffix_injective (suffix : String) :
    Function.Injective (Namer.withSuffix suffix) := fun _ _ same =>
  (String.append_left_inj suffix).mp same

namespace Builder

theorem strategy_sampledField (builder : Builder) (levels : Nat) (key : String) (sample : Json) :
    (builder.sampledField levels key sample).strategy =
      .ofType (builder.sampledField levels key sample).type := by
  fun_cases sampledField <;> rfl

theorem sampledType_consistent (builder : Builder) (levels : Nat) (key : String)
    (members : List (String × Json)) : (builder.sampledType levels key members).Consistent := by
  intro name field found
  rcases field?_sampledType.mp found with ⟨_, rfl⟩ | ⟨_, rfl, rfl⟩
  · exact ⟨builder.name_sampledField _ _ _, Or.inl (builder.strategy_sampledField _ _ _)⟩
  · exact ⟨rfl, Or.inr rfl⟩

theorem Opens.consistent {builder : Builder} {call : Call} {object : ObjectType}
    (opens : builder.Opens call object) : object.Consistent := by
  cases opens
  exact builder.sampledType_consistent _ _ _

end Builder

namespace Assembler

open Builder

variable {assembler : Assembler} {document : Json}

/-- The members of the root of a document. A document that is no object has none. -/
def rootMembers (document : Json) : List (String × Json) :=
  document.members?.getD []

theorem mem_occurring_of_mem_rootMembers {member : String × Json}
    (inside : member ∈ rootMembers document) : member ∈ document.occurring := by
  cases document with
  | object members => exact Json.mem_occurring_of_mem inside
  | _ => cases inside

/-- The calls for the members of the root. -/
def rootCalls (assembler : Assembler) (document : Json) : Call → Prop :=
  SampleCalls (assembler.options.maxDepth + 1) (rootMembers document) []

/-- The cache at the end of the build. -/
def finalCache (assembler : Assembler) (document : Json) : TypeCache :=
  (addFields ((assembler.builder document).fieldAt 0) (rootMembers document)
    (.empty assembler.options.rootTypeName) .empty).2

theorem root_build : (assembler.build document).root =
    ((ObjectType.empty assembler.options.rootTypeName).addSampled
      ((assembler.builder document).sampledField (assembler.options.maxDepth + 1))
      (rootMembers document)).orFallback assembler.options.fallbackField := by
  rw [← addFields_fst (fieldWithin_fst (assembler.builder document) _) _ _ .empty]
  rfl

/-- The whole build grows the empty cache by the calls for the root. -/
theorem build_grows : (assembler.builder document).Grows (assembler.rootCalls document) .empty
    (assembler.finalCache document) :=
  addFields_grows (fieldWithin_grows (assembler.builder document)
    (assembler.options.maxDepth + 1)) (rootMembers document) _ .empty

/-- A field of the root comes from a member, or it is the fallback. -/
theorem root_field? {name : String} {field : Field}
    (found : (assembler.build document).root.field? name = some field) :
    (∃ sample, (name, sample) ∈ rootMembers document ∧
      field = (assembler.builder document).sampledField (assembler.options.maxDepth + 1) name
        sample) ∨
      rootMembers document = [] ∧ name = assembler.options.fallbackField ∧
        field = .fallback assembler.options.fallbackField := by
  have named := (assembler.builder document).name_sampledField (assembler.options.maxDepth + 1)
  rw [root_build, ObjectType.field?_orFallback] at found
  rcases found with found | ⟨absent, same, fallback⟩
  · rcases ObjectType.field?_addSampled named found with older | sampled
    · simp [ObjectType.empty, ObjectType.field?] at older
    · exact Or.inl sampled
  · refine Or.inr ⟨?_, same, fallback⟩
    rw [List.eq_nil_iff_forall_not_mem]
    rintro ⟨key, sample⟩ inside
    obtain ⟨last, _, present⟩ := ObjectType.field?_addSampled_of_mem named
      (.empty assembler.options.rootTypeName) inside
    rw [absent key] at present
    cases present

/-- Every member of the document gives the root a field. -/
theorem root_field?_of_mem {name : String} {sample : Json}
    (inside : (name, sample) ∈ rootMembers document) :
    ∃ last, (name, last) ∈ rootMembers document ∧
      (assembler.build document).root.field? name =
        some ((assembler.builder document).sampledField (assembler.options.maxDepth + 1) name
          last) := by
  have named := (assembler.builder document).name_sampledField (assembler.options.maxDepth + 1)
  obtain ⟨last, member, present⟩ := ObjectType.field?_addSampled_of_mem named
    (.empty assembler.options.rootTypeName) inside
  refine ⟨last, member, ?_⟩
  rw [root_build, ObjectType.field?_orFallback]
  exact Or.inl present

/-- Every stored type is made by a call for the root and has the name that it is stored under. -/
theorem exists_makes {name : String} {object : ObjectType}
    (stored : (assembler.build document).types.get? name = some object) :
    object.name = name ∧ ∃ call, assembler.rootCalls document call ∧
      (assembler.builder document).Makes (assembler.build document).types call object := by
  rcases build_grows.origin stored with older | ⟨_, named, made⟩
  · cases older
  · exact ⟨named, made⟩

/-- Every stored type is opened by a call. What holds for the calls for the root and is kept by nested
calls holds for this call. -/
theorem exists_opener (holds : Call → Prop)
    (step : ∀ {outer inner}, (assembler.builder document).Nested
      (assembler.build document).types outer inner → holds outer → holds inner)
    (start : ∀ {call}, assembler.rootCalls document call → holds call) {name : String}
    {object : ObjectType} (stored : (assembler.build document).types.get? name = some object) :
    ∃ levels key members pending, name = assembler.namer key ∧
      object = (assembler.builder document).sampledType levels key members ∧
      holds ⟨levels + 1, key, .object members, pending⟩ := by
  obtain ⟨named, call, made, opener, leads, opens⟩ := exists_makes stored
  have held := leads.invariant step (start made)
  cases opens with
  | intro fresh => exact ⟨_, _, _, _, named.symm.trans (name_sampledType _ _ _ _), rfl, held⟩

/-- The stored type of a key is built from a sample with these members. The levels are left for its
own members, and the pending names belong to the types that it is built inside of. -/
structure Built (assembler : Assembler) (document : Json) (key : String) (levels : Nat)
    (members : List (String × Json)) (pending : List String) : Prop where
  fresh : assembler.namer key ∉ pending
  stored : (assembler.build document).types.get? (assembler.namer key) =
    some ((assembler.builder document).sampledType levels key members)
  led : ∃ call, assembler.rootCalls document call ∧
    (assembler.builder document).Leads (assembler.build document).types call
      ⟨levels + 1, key, .object members, pending⟩

/-- When different keys have different names, every type stored for a key is built for that key. -/
theorem exists_built (injective : Function.Injective assembler.namer) {key : String}
    {object : ObjectType}
    (stored : (assembler.build document).types.get? (assembler.namer key) = some object) :
    ∃ levels members pending, assembler.Built document key levels members pending ∧
      object = (assembler.builder document).sampledType levels key members := by
  obtain ⟨named, call, made, opener, leads, opens⟩ := exists_makes stored
  cases opens with
  | @intro levels other members pending fresh =>
      obtain rfl : other = key := injective ((name_sampledType _ _ _ _).symm.trans named)
      exact ⟨levels, members, pending, ⟨fresh, stored, call, made, leads⟩, rfl⟩

/-- What holds for the calls for the root and is kept by nested calls holds for the call that builds
a type. -/
theorem Built.holds {key : String} {levels : Nat} {members : List (String × Json)}
    {pending : List String} (holds : Call → Prop)
    (step : ∀ {outer inner}, (assembler.builder document).Nested
      (assembler.build document).types outer inner → holds outer → holds inner)
    (start : ∀ {call}, assembler.rootCalls document call → holds call)
    (built : assembler.Built document key levels members pending) :
    holds ⟨levels + 1, key, .object members, pending⟩ := by
  obtain ⟨call, made, leads⟩ := built.led
  exact leads.invariant step (start made)

theorem types_contains_of_contains {name : String}
    (known : (assembler.finalCache document).contains name = true) :
    (assembler.build document).types.contains name = true := by
  rcases TypeCache.contains_iff.mp known with built | pending
  · exact built
  · rw [build_grows.pending_eq] at pending
    cases pending

/-- A type that the root refers to is stored. -/
theorem types_contains_of_root_refers {name : String}
    (refers : (assembler.build document).root.Refers name) :
    (assembler.build document).types.contains name = true := by
  obtain ⟨fieldName, field, found, composite⟩ := refers
  rcases root_field? found with ⟨sample, inside, rfl⟩ | ⟨_, _, rfl⟩
  · exact types_contains_of_contains (build_grows.present ⟨_, inside, rfl⟩ composite)
  · simp [Field.fallback, TypeRef.compositeName?] at composite

/-- A type that a stored type refers to is stored. -/
theorem types_contains_of_refers {name other : String} {object : ObjectType}
    (stored : (assembler.build document).types.get? name = some object)
    (refers : object.Refers other) : (assembler.build document).types.contains other = true :=
  types_contains_of_contains (build_grows.closed stored rfl refers)

theorem types_contains_of_objectTypes {object : ObjectType}
    (inside : object ∈ (assembler.build document).objectTypes) {name : String}
    (refers : object.Refers name) : (assembler.build document).types.contains name = true := by
  rcases List.mem_cons.mp inside with rfl | stored
  · exact types_contains_of_root_refers refers
  · obtain ⟨outer, stored⟩ := Dict.mem_values_iff.mp stored
    exact types_contains_of_refers stored refers

theorem build_consistent : (assembler.build document).Consistent where
  root := by
    intro name field found
    rcases root_field? found with ⟨sample, _, rfl⟩ | ⟨_, rfl, rfl⟩
    · exact ⟨name_sampledField _ _ _ _, Or.inl (strategy_sampledField _ _ _ _)⟩
    · exact ⟨rfl, Or.inr rfl⟩
  types := by
    intro name object stored
    obtain ⟨_, _, _, _, _, opens⟩ := exists_makes stored
    exact opens.consistent

/-- The assembled schema is the built one when that is checked. -/
theorem assemble_eq_ok_iff {schema : Schema} :
    assembler.assemble document = .ok schema ↔
      schema = assembler.build document ∧ schema.Checked assembler.options := by
  rw [← Schema.validate_eq_ok_iff, assemble]
  cases checked : (assembler.build document).validate assembler.options with
  | error failure =>
      simp only [bind, Except.bind, reduceCtorEq, false_iff, not_and]
      rintro rfl
      simp [checked]
  | ok =>
      simp only [bind, Except.bind, pure, Except.pure, Except.ok.injEq]
      constructor
      · rintro rfl
        exact ⟨rfl, checked⟩
      · rintro ⟨rfl, _⟩
        rfl

theorem assemble_eq_error_iff {failure : Failure} :
    assembler.assemble document = .error failure ↔
      (assembler.build document).validate assembler.options = .error failure := by
  rw [assemble]
  cases (assembler.build document).validate assembler.options <;>
    simp [bind, Except.bind, pure, Except.pure]

/-- A stored type is found under its name, because the root has another name. -/
theorem objectType?_of_stored (checked : (assembler.build document).Checked assembler.options)
    {name : String} {object : ObjectType}
    (stored : (assembler.build document).types.get? name = some object) :
    (assembler.build document).objectType? name = some object := by
  have distinct := checked.typesDistinct object (Dict.mem_values_iff.mpr ⟨name, stored⟩)
  have different : name ≠ (assembler.build document).root.name := by
    rw [← (exists_makes stored).1]
    exact fun same => distinct (List.mem_cons.mpr (Or.inl same))
  rw [Schema.objectType?, if_neg different]
  exact stored

end Assembler

end SchemaInference
