/-
This file gives the fields and types of samples without the cache of the builder.
-/

import SchemaInference.Inference.Builder
import SchemaInference.Proofs.Inference.Collected

namespace SchemaInference

namespace ObjectType

@[simp] theorem name_addField (object : ObjectType) (field : Field) :
    (object.addField field).name = object.name := rfl

@[simp] theorem name_orFallback (object : ObjectType) (fallbackName : String) :
    (object.orFallback fallbackName).name = object.name := by
  unfold orFallback
  split <;> rfl

theorem field?_addField (object : ObjectType) (field : Field) (name : String) :
    (object.addField field).field? name =
      if name = field.name then some field else object.field? name :=
  Dict.get?_insert object.fields field.name name field

/-- Only a type without fields has the fallback field. -/
theorem field?_orFallback {object : ObjectType} {fallbackName name : String} {field : Field} :
    (object.orFallback fallbackName).field? name = some field ↔
      object.field? name = some field ∨
        (∀ other, object.field? other = none) ∧ name = fallbackName ∧
          field = .fallback fallbackName := by
  unfold orFallback
  split
  · next empty =>
      have absent : ∀ other, object.field? other = none := Dict.isEmpty_iff_get?.mp empty
      rw [field?_addField, absent name]
      by_cases same : name = fallbackName
      · simp [Field.fallback, same, absent, eq_comm]
      · simp [Field.fallback, same]
  · next nonempty =>
      have present : ¬ ∀ other, object.field? other = none := fun absent =>
        nonempty (Dict.isEmpty_iff_get?.mpr absent)
      simp [present]

/-- This function adds the field of each sample to a type. -/
def addSampled (field : String → Json → Field) (samples : List (String × Json))
    (object : ObjectType) : ObjectType :=
  samples.foldl (fun object entry => object.addField (field entry.1 entry.2)) object

@[simp] theorem name_addSampled (field : String → Json → Field) (samples : List (String × Json))
    (object : ObjectType) : (object.addSampled field samples).name = object.name := by
  induction samples generalizing object with
  | nil => rfl
  | cons entry rest inductionHypothesis => exact inductionHypothesis _

/-- A field of the result is an old field or the field of a sample. -/
theorem field?_addSampled {field : String → Json → Field} {samples : List (String × Json)}
    (named : ∀ name sample, (field name sample).name = name) {object : ObjectType}
    {name : String} {found : Field}
    (present : (object.addSampled field samples).field? name = some found) :
    object.field? name = some found ∨
      ∃ sample, (name, sample) ∈ samples ∧ found = field name sample := by
  induction samples generalizing object with
  | nil => exact Or.inl present
  | cons entry rest inductionHypothesis =>
      rcases inductionHypothesis present with older | ⟨sample, inside, same⟩
      · rw [field?_addField, named] at older
        split at older
        · next same =>
            subst same
            exact Or.inr ⟨entry.2, List.mem_cons_self, (Option.some.inj older).symm⟩
        · exact Or.inl older
      · exact Or.inr ⟨sample, List.mem_cons_of_mem _ inside, same⟩

theorem field?_addSampled_of_field? (field : String → Json → Field)
    (samples : List (String × Json)) {object : ObjectType} {name : String}
    (present : (object.field? name).isSome) :
    ((object.addSampled field samples).field? name).isSome := by
  induction samples generalizing object with
  | nil => exact present
  | cons entry rest inductionHypothesis =>
      apply inductionHypothesis
      rw [field?_addField]
      split
      · rfl
      · exact present

/-- Every sample name has the field of one of its samples. -/
theorem field?_addSampled_of_mem {field : String → Json → Field} {samples : List (String × Json)}
    (named : ∀ name sample, (field name sample).name = name) (object : ObjectType)
    {name : String} {sample : Json} (inside : (name, sample) ∈ samples) :
    ∃ last, (name, last) ∈ samples ∧
      (object.addSampled field samples).field? name = some (field name last) := by
  induction samples generalizing object sample with
  | nil => simp at inside
  | cons entry rest inductionHypothesis =>
      by_cases later : ∃ other, (name, other) ∈ rest
      · obtain ⟨other, later⟩ := later
        obtain ⟨last, member, found⟩ := inductionHypothesis (object.addField _) later
        exact ⟨last, List.mem_cons_of_mem _ member, found⟩
      · have first : (name, sample) = entry := by
          rcases List.mem_cons.mp inside with same | member
          · exact same
          · exact absurd ⟨sample, member⟩ later
        subst first
        have added : ((object.addField (field name sample)).field? name).isSome := by
          rw [field?_addField, named, if_pos rfl]
          rfl
        obtain ⟨found, present⟩ := Option.isSome_iff_exists.mp
          (field?_addSampled_of_field? field rest added)
        rcases field?_addSampled named present with older | ⟨other, member, _⟩
        · rw [field?_addField, named, if_pos rfl] at older
          exact ⟨sample, List.mem_cons_self, older ▸ present⟩
        · exact absurd ⟨other, member⟩ later

end ObjectType

namespace Builder

/-- The field of a sample does not depend on what the cache holds. -/
def sampledField (builder : Builder) : Nat → String → Json → Field
  | 0, key, _ => .scalar key .string
  | _ + 1, key, .object _ => .object key (builder.namer key)
  | _ + 1, key, .array [] => .list key (.scalar .string)
  | levels + 1, key, .array (first :: rest) =>
      .list key (builder.sampledField levels key (itemSample first rest)).type
  | _ + 1, key, sample => .scalar key (.of sample)

theorem name_sampledField (builder : Builder) (levels : Nat) (key : String) (sample : Json) :
    (builder.sampledField levels key sample).name = key := by
  fun_cases sampledField <;> rfl

theorem addFields_fst {build : Build} {field : String → Json → Field}
    (independent : ∀ key sample cache, (build key sample cache).1 = field key sample)
    (samples : List (String × Json)) (object : ObjectType) (cache : TypeCache) :
    (addFields build samples object cache).1 = object.addSampled field samples := by
  induction samples generalizing object cache with
  | nil => rfl
  | cons entry rest inductionHypothesis =>
      have first := independent entry.1 entry.2 cache
      rw [ObjectType.addSampled, List.foldl_cons, ← first]
      exact inductionHypothesis _ _

/-- A build gives the field of the sample, whatever the cache holds. -/
theorem fieldWithin_fst (builder : Builder) (levels : Nat) (key : String) (sample : Json)
    (cache : TypeCache) :
    (builder.fieldWithin levels key sample cache).1 = builder.sampledField levels key sample := by
  induction levels generalizing key sample cache with
  | zero => rfl
  | succ levels inductionHypothesis =>
      cases sample with
      | object members =>
          rw [fieldWithin, objectField]
          split <;> rfl
      | array items =>
          cases items with
          | nil => rfl
          | cons first rest =>
              have element := inductionHypothesis key (itemSample first rest) cache
              rw [sampledField, ← element]
              rfl
      | _ => rfl

/-- This type has a field for each member of the sample and of the bucket of its key. -/
def sampledType (builder : Builder) (levels : Nat) (key : String)
    (members : List (String × Json)) : ObjectType :=
  ((ObjectType.empty (builder.namer key)).addSampled (builder.sampledField levels)
    (builder.memberSamples key members)).orFallback builder.options.fallbackField

@[simp] theorem name_sampledType (builder : Builder) (levels : Nat) (key : String)
    (members : List (String × Json)) :
    (builder.sampledType levels key members).name = builder.namer key := by
  simp [sampledType, ObjectType.empty]

theorem mem_memberNames_iff {builder : Builder} {key name : String}
    {members : List (String × Json)} :
    name ∈ builder.memberNames key members ↔
      name ∈ members.map Prod.fst ∨ builder.unions.Holds key name := by
  rw [memberNames, Entries.mem_keys_ofList, List.map_map, List.mem_map]
  unfold Unions.Holds
  cases builder.unions.bucket? key with
  | none => simp
  | some bucket => simp [Dict.contains_iff_mem_keys]

theorem mem_memberSamples_iff {builder : Builder} {key name : String}
    {members : List (String × Json)} {sample : Json} :
    (name, sample) ∈ builder.memberSamples key members ↔
      name ∈ builder.memberNames key members ∧ sample = builder.memberSample key members name := by
  simp only [memberSamples, List.mem_map, Prod.mk.injEq]
  constructor
  · rintro ⟨_, inside, rfl, rfl⟩
    exact ⟨inside, rfl⟩
  · rintro ⟨inside, rfl⟩
    exact ⟨name, inside, rfl, rfl⟩

/-- The members name the fields of the type, and only a type without members has another field. -/
theorem field?_sampledType {builder : Builder} {levels : Nat} {key name : String}
    {members : List (String × Json)} {field : Field} :
    (builder.sampledType levels key members).field? name = some field ↔
      (name ∈ builder.memberNames key members ∧
        field = builder.sampledField levels name (builder.memberSample key members name)) ∨
      builder.memberNames key members = [] ∧ name = builder.options.fallbackField ∧
        field = .fallback builder.options.fallbackField := by
  have named := builder.name_sampledField levels
  have sampled : ∀ {other : String} {found : Field},
      ((ObjectType.empty (builder.namer key)).addSampled (builder.sampledField levels)
        (builder.memberSamples key members)).field? other = some found ↔
      other ∈ builder.memberNames key members ∧
        found = builder.sampledField levels other (builder.memberSample key members other) := by
    intro other found
    constructor
    · intro present
      rcases ObjectType.field?_addSampled named present with older | ⟨sample, inside, rfl⟩
      · simp [ObjectType.empty, ObjectType.field?] at older
      · obtain ⟨member, rfl⟩ := mem_memberSamples_iff.mp inside
        exact ⟨member, rfl⟩
    · rintro ⟨member, rfl⟩
      obtain ⟨last, inside, present⟩ := ObjectType.field?_addSampled_of_mem named
        (.empty (builder.namer key)) (mem_memberSamples_iff.mpr ⟨member, rfl⟩)
      rw [(mem_memberSamples_iff.mp inside).2] at present
      exact present
  rw [sampledType, ObjectType.field?_orFallback, sampled]
  refine or_congr_right (and_congr_left fun _ => ?_)
  simp only [Option.eq_none_iff_forall_ne_some, ne_eq, sampled]
  constructor
  · intro absent
    exact List.eq_nil_iff_forall_not_mem.mpr fun other member => absent other _ ⟨member, rfl⟩
  · intro none other found present
    simp [none] at present

theorem field?_sampledType_of_mem {builder : Builder} (levels : Nat) {key name : String}
    {members : List (String × Json)} (inside : name ∈ builder.memberNames key members) :
    (builder.sampledType levels key members).field? name =
      some (builder.sampledField levels name (builder.memberSample key members name)) :=
  field?_sampledType.mpr (Or.inl ⟨inside, rfl⟩)

end Builder

end SchemaInference
