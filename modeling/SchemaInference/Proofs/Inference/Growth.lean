/-
This file describes how the calls of the builder change the cache.
-/

import SchemaInference.Proofs.Inference.Calls
import SchemaInference.Proofs.Schema.Reference

namespace SchemaInference

namespace TypeCache

theorem contains_iff {cache : TypeCache} {name : String} :
    cache.contains name = true ↔ (cache.types.get? name).isSome ∨ name ∈ cache.pending := by
  simp [contains, Dict.contains]

theorem not_contains_iff {cache : TypeCache} {name : String} :
    cache.contains name = false ↔ cache.types.get? name = none ∧ name ∉ cache.pending := by
  simp [contains, Dict.contains]

theorem get?_insert_types (cache : TypeCache) (object : ObjectType) (name : String) :
    (cache.insert object).types.get? name =
      if name = object.name then some object else cache.types.get? name :=
  Dict.get?_insert cache.types object.name name object

theorem mem_pending_insert {cache : TypeCache} {object : ObjectType} {name : String} :
    name ∈ (cache.insert object).pending ↔ name ∈ cache.pending ∧ name ≠ object.name := by
  simp [insert]

/-- An inserted type takes the place of no other type when its name was not stored. -/
theorem get?_insert_types_of_absent {cache : TypeCache} {object other : ObjectType} {name : String}
    (absent : cache.types.get? object.name = none) (found : cache.types.get? name = some other) :
    (cache.insert object).types.get? name = some other := by
  rw [get?_insert_types, if_neg]
  · exact found
  · intro same
    rw [same, absent] at found
    cases found

/-- Every name stays known, because a finished type is stored. -/
theorem contains_insert {cache : TypeCache} {name : String} (object : ObjectType)
    (known : cache.contains name = true) : (cache.insert object).contains name = true := by
  rw [contains_iff] at known ⊢
  rw [get?_insert_types]
  by_cases same : name = object.name
  · exact Or.inl (by simp [same])
  · rw [if_neg same]
    exact known.imp_right fun pending => mem_pending_insert.mpr ⟨pending, same⟩

theorem contains_of_contains_reserve {cache : TypeCache} {name : String} (reserved : String)
    (known : cache.contains name = true) : (cache.reserve reserved).contains name = true := by
  rw [contains_iff] at known ⊢
  exact known.imp_right (List.mem_cons_of_mem _)

theorem contains_reserve_self (cache : TypeCache) (name : String) :
    (cache.reserve name).contains name = true :=
  contains_iff.mpr (Or.inr List.mem_cons_self)

end TypeCache

namespace Builder

variable {builder : Builder}

/-- Calls grow a cache. The pending names and the finished types stay. Every new type is made by
one of the calls. The fields of the calls and of the new types refer only to names that the cache
contains. -/
structure Grows (builder : Builder) (calls : Call → Prop) (before after : TypeCache) : Prop where
  pending_eq : after.pending = before.pending
  kept : ∀ {name object}, before.types.get? name = some object →
    after.types.get? name = some object
  origin : ∀ {name object}, after.types.get? name = some object →
    before.types.get? name = some object ∨
      before.contains name = false ∧ object.name = name ∧
        ∃ call, calls call ∧ builder.Makes after.types call object
  present : ∀ {call name}, calls call → (builder.callField call).type.compositeName? = some name →
    after.contains name = true
  closed : ∀ {name object other}, after.types.get? name = some object →
    before.types.get? name = none → object.Refers other → after.contains other = true

theorem Grows.contains {calls : Call → Prop} {before after : TypeCache} {name : String}
    (grows : builder.Grows calls before after) (known : before.contains name = true) :
    after.contains name = true := by
  rw [TypeCache.contains_iff] at known ⊢
  rcases known with built | pending
  · obtain ⟨object, stored⟩ := Option.isSome_iff_exists.mp built
    exact Or.inl (Option.isSome_iff_exists.mpr ⟨object, grows.kept stored⟩)
  · exact Or.inr (grows.pending_eq ▸ pending)

/-- A cache that knows the names of all the fields need not change. -/
theorem Grows.unchanged {calls : Call → Prop} {cache : TypeCache}
    (present : ∀ {call name}, calls call →
      (builder.callField call).type.compositeName? = some name → cache.contains name = true) :
    builder.Grows calls cache cache where
  pending_eq := rfl
  kept := id
  origin := Or.inl
  present := present
  closed := fun stored absent => by simp [absent] at stored

/-- Growth by some calls and then by others is growth by all of them. -/
theorem Grows.trans {first second : Call → Prop} {before middle after : TypeCache}
    (former : builder.Grows first before middle) (latter : builder.Grows second middle after) :
    builder.Grows (fun call => first call ∨ second call) before after where
  pending_eq := latter.pending_eq.trans former.pending_eq
  kept := fun stored => latter.kept (former.kept stored)
  origin := by
    intro name object stored
    rcases latter.origin stored with older | ⟨absent, named, call, made, makes⟩
    · rcases former.origin older with oldest | ⟨absent, named, call, made, makes⟩
      · exact Or.inl oldest
      · exact Or.inr ⟨absent, named, call, Or.inl made, makes.mono latter.kept⟩
    · refine Or.inr ⟨?_, named, call, Or.inr made, makes⟩
      rw [← Bool.not_eq_true] at absent ⊢
      exact fun known => absent (former.contains known)
  present := by
    rintro call name (made | made) refers
    · exact latter.contains (former.present made refers)
    · exact latter.present made refers
  closed := by
    intro name object other stored absent refers
    rcases latter.origin stored with older | ⟨unknown, _⟩
    · exact latter.contains (former.closed older absent refers)
    · exact latter.closed stored (TypeCache.not_contains_iff.mp unknown).1 refers

/-- The calls may be described in another way. -/
theorem Grows.congr {first second : Call → Prop} {before after : TypeCache}
    (grows : builder.Grows first before after) (same : ∀ call, first call ↔ second call) :
    builder.Grows second before after := by
  have equal : first = second := funext fun call => propext (same call)
  exact equal ▸ grows

/-- The calls for a list of samples with the same levels left. -/
def SampleCalls (levels : Nat) (samples : List (String × Json)) (pending : List String)
    (call : Call) : Prop :=
  ∃ entry ∈ samples, call = ⟨levels, entry.1, entry.2, pending⟩

/-- Adding fields grows the cache by the calls for their samples. -/
theorem addFields_grows {build : Build} {levels : Nat}
    (each : ∀ key sample cache, builder.Grows (· = ⟨levels, key, sample, cache.pending⟩) cache
      (build key sample cache).2)
    (samples : List (String × Json)) (object : ObjectType) (cache : TypeCache) :
    builder.Grows (SampleCalls levels samples cache.pending) cache
      (addFields build samples object cache).2 := by
  induction samples generalizing object cache with
  | nil => exact .unchanged fun made => by simp [SampleCalls] at made
  | cons entry rest inductionHypothesis =>
      have first := each entry.1 entry.2 cache
      have later := inductionHypothesis (object.addField (build entry.1 entry.2 cache).1)
        (build entry.1 entry.2 cache).2
      rw [first.pending_eq] at later
      refine (first.trans later).congr fun call => ?_
      simp [SampleCalls]

/-- No call stores a type under a name that is reserved. -/
theorem Grows.get?_reserved {calls : Call → Prop} {before after : TypeCache} {name : String}
    (grows : builder.Grows calls (before.reserve name) after)
    (absent : before.types.get? name = none) : after.types.get? name = none := by
  rw [Option.eq_none_iff_forall_ne_some]
  intro object stored
  rcases grows.origin stored with older | ⟨unreserved, _⟩
  · exact Option.some_ne_none _ (older.symm.trans absent)
  · rw [before.contains_reserve_self] at unreserved
    cases unreserved

/-- The type of a sample refers only to what the calls for its members refer to. -/
theorem exists_call_of_sampledType_refers {levels : Nat} {key other : String}
    {members : List (String × Json)} (pending : List String)
    (refers : (builder.sampledType levels key members).Refers other) :
    ∃ call, SampleCalls levels (builder.memberSamples key members) pending call ∧
      (builder.callField call).type.compositeName? = some other := by
  obtain ⟨name, field, found, composite⟩ := refers
  rcases field?_sampledType.mp found with ⟨member, rfl⟩ | ⟨_, _, rfl⟩
  · exact ⟨_, ⟨_, mem_memberSamples_iff.mpr ⟨member, rfl⟩, rfl⟩, composite⟩
  · simp [Field.fallback, TypeRef.compositeName?] at composite

/-- The type that is opened for a key is stored, and the types inside it are nested. -/
theorem opened_grows {levels : Nat} {key : String} {members : List (String × Json)}
    {before inner : TypeCache} (unknown : before.contains (builder.namer key) = false)
    (grows : builder.Grows
      (SampleCalls levels (builder.memberSamples key members) (builder.namer key :: before.pending))
      (before.reserve (builder.namer key)) inner) :
    builder.Grows (· = ⟨levels + 1, key, .object members, before.pending⟩) before
      (inner.insert (builder.sampledType levels key members)) := by
  obtain ⟨absent, fresh⟩ := TypeCache.not_contains_iff.mp unknown
  have named := builder.name_sampledType levels key members
  have kept : ∀ {name object}, inner.types.get? name = some object →
      (inner.insert (builder.sampledType levels key members)).types.get? name = some object :=
    TypeCache.get?_insert_types_of_absent (named ▸ grows.get?_reserved absent)
  have stored : (inner.insert (builder.sampledType levels key members)).types.get?
      (builder.namer key) = some (builder.sampledType levels key members) := by
    rw [TypeCache.get?_insert_types, named, if_pos rfl]
  constructor
  case pending_eq =>
    have outside : ∀ name ∈ before.pending, name ≠ builder.namer key := fun name inside same =>
      fresh (same ▸ inside)
    simpa [TypeCache.insert, named, grows.pending_eq, TypeCache.reserve] using outside
  case kept => exact fun found => kept (grows.kept found)
  case origin =>
    intro name object found
    rw [TypeCache.get?_insert_types, named] at found
    split at found
    · next same =>
        obtain rfl := Option.some.inj found
        exact Or.inr ⟨same ▸ unknown, named.trans same.symm, _, rfl, _, .refl, .intro fresh⟩
    · rcases grows.origin found with older | ⟨unreserved, sameName, call, made, makes⟩
      · exact Or.inl older
      · obtain ⟨⟨member, sample⟩, inside, rfl⟩ := made
        obtain ⟨listed, rfl⟩ := mem_memberSamples_iff.mp inside
        refine Or.inr ⟨?_, sameName, _, rfl, (makes.mono kept).head (.member fresh stored listed)⟩
        rw [← Bool.not_eq_true] at unreserved ⊢
        exact fun known => unreserved (TypeCache.contains_of_contains_reserve _ known)
  case present =>
    rintro call name rfl refers
    obtain rfl : builder.namer key = name := Option.some.inj refers
    exact TypeCache.contains_iff.mpr (Or.inl (by rw [stored]; rfl))
  case closed =>
    intro name object other found unknownBefore refers
    rw [TypeCache.get?_insert_types, named] at found
    split at found
    · obtain rfl := Option.some.inj found
      obtain ⟨call, made, composite⟩ :=
        exists_call_of_sampledType_refers (builder.namer key :: before.pending) refers
      exact TypeCache.contains_insert _ (grows.present made composite)
    · exact TypeCache.contains_insert _ (grows.closed found unknownBefore refers)

/-- A nested call grows a cache no further than the call around it. -/
theorem Grows.head {outer inner : Call} {before after : TypeCache}
    (grows : builder.Grows (· = inner) before after)
    (nested : ∀ types, builder.Nested types outer inner)
    (composite : (builder.callField outer).type.compositeName? =
      (builder.callField inner).type.compositeName?) :
    builder.Grows (· = outer) before after where
  pending_eq := grows.pending_eq
  kept := grows.kept
  origin := by
    intro name object stored
    rcases grows.origin stored with older | ⟨absent, named, call, rfl, makes⟩
    · exact Or.inl older
    · exact Or.inr ⟨absent, named, outer, rfl, makes.head (nested after.types)⟩
  present := by
    rintro call name rfl refers
    exact grows.present rfl (composite ▸ refers)
  closed := grows.closed

/-- A call without a composite type need not change the cache. -/
theorem Grows.plain {call : Call} {cache : TypeCache}
    (plain : (builder.callField call).type.compositeName? = none) :
    builder.Grows (· = call) cache cache := by
  refine .unchanged ?_
  rintro other name rfl refers
  rw [plain] at refers
  cases refers

/-- A build grows the cache by its own call. -/
theorem fieldWithin_grows (builder : Builder) (levels : Nat) (key : String) (sample : Json)
    (cache : TypeCache) :
    builder.Grows (· = ⟨levels, key, sample, cache.pending⟩) cache
      (builder.fieldWithin levels key sample cache).2 := by
  induction levels generalizing key sample cache with
  | zero => exact .plain rfl
  | succ levels inductionHypothesis =>
      cases sample with
      | object members =>
          rw [fieldWithin, objectField]
          split
          · next known =>
              refine .unchanged ?_
              rintro call name rfl refers
              obtain rfl : builder.namer key = name := Option.some.inj refers
              exact known
          · next unknown =>
              have inner := addFields_grows inductionHypothesis
                (builder.memberSamples key members) (.empty (builder.namer key))
                (cache.reserve (builder.namer key))
              have opened := opened_grows (by simpa using unknown) inner
              have same := addFields_fst (fieldWithin_fst builder levels)
                (builder.memberSamples key members) (.empty (builder.namer key))
                (cache.reserve (builder.namer key))
              rw [sampledType, ← same] at opened
              exact opened
      | array items =>
          cases items with
          | nil => exact .plain rfl
          | cons first rest =>
              have inner := inductionHypothesis key (itemSample first rest) cache
              exact inner.head (fun _ => .item) rfl
      | _ => exact .plain rfl

theorem pending_fieldWithin (builder : Builder) (levels : Nat) (key : String) (sample : Json)
    (cache : TypeCache) : (builder.fieldWithin levels key sample cache).2.pending = cache.pending :=
  (builder.fieldWithin_grows levels key sample cache).pending_eq

end Builder

end SchemaInference
