/-
This file says what a build adds to the cache, whatever the cache holds.
-/

import SchemaInference.Proofs.Inference.Growth

namespace SchemaInference

namespace Builder

variable {builder : Builder}

/-- The type of a key knows the members of its sample and those of its bucket. -/
def Knows (builder : Builder) (key : String) (members : List (String × Json)) (name : String) :
    Prop :=
  name ∈ members.map Prod.fst ∨ builder.unions.Holds key name

/-- The fields of the type are exactly those of the known members. Each one is what the builder
returns one level deeper, for the value of the member in the sample, for an object without members
when there is no value but a set flag, and for null otherwise. A type without known members has the
fallback field alone. -/
structure Exact (builder : Builder) (key : String) (members : List (String × Json)) (depth : Nat)
    (object : ObjectType) : Prop where
  named : object.name = builder.namer key
  fields : ∀ name, (object.field? name).isSome ↔
    builder.Knows key members name ∨
      (∀ other, ¬ builder.Knows key members other) ∧ name = builder.options.fallbackField
  valued : ∀ name sample cache, members.lookup name = some sample →
    object.field? name = some (builder.fieldAt (depth + 1) name sample cache).1
  flagged : ∀ name cache, members.lookup name = none →
    builder.unions.isObject key name = true →
    object.field? name = some (builder.fieldAt (depth + 1) name (.object []) cache).1
  unflagged : ∀ name cache, members.lookup name = none → builder.Knows key members name →
    builder.unions.isObject key name = false →
    object.field? name = some (builder.fieldAt (depth + 1) name .null cache).1
  fallback : (∀ name, ¬ builder.Knows key members name) →
    object.field? builder.options.fallbackField = some (.fallback builder.options.fallbackField)

/-- A build returns the field of its sample. -/
theorem fieldAt_fst (builder : Builder) (depth : Nat) (key : String) (sample : Json)
    (cache : TypeCache) : (builder.fieldAt depth key sample cache).1 =
      builder.sampledField (builder.levelsAt depth) key sample :=
  builder.fieldWithin_fst _ key sample cache

/-- The field of a sample depends on the names of types and on nothing else of the builder. -/
theorem sampledField_congr {other : Builder} (sameNamer : other.namer = builder.namer)
    (levels : Nat) (key : String) (sample : Json) :
    other.sampledField levels key sample = builder.sampledField levels key sample := by
  fun_induction sampledField builder levels key sample with
  | case2 levels key members => rw [sampledField, sameNamer]
  | case4 levels key first rest inductionHypothesis => rw [sampledField, inductionHypothesis]
  | _ => simp [sampledField]

theorem known_of_isObject {key name : String} (members : List (String × Json))
    (flagged : builder.unions.isObject key name = true) : builder.Knows key members name := by
  refine Or.inr ?_
  unfold Unions.isObject at flagged
  split at flagged
  · next bucket found =>
      refine ⟨bucket, found, ?_⟩
      unfold Unions.flag at flagged
      unfold Dict.contains
      cases held : bucket.get? name with
      | none => simp [held] at flagged
      | some _ => rfl
  · cases flagged

theorem memberNames_eq_nil_iff {key : String} {members : List (String × Json)} :
    builder.memberNames key members = [] ↔ ∀ name, ¬ builder.Knows key members name := by
  rw [List.eq_nil_iff_forall_not_mem]
  exact forall_congr' fun name => mem_memberNames_iff.not

/-- The type of a sample has a field for each known member, and the fallback field without any. -/
theorem isSome_field?_sampledType (builder : Builder) (levels : Nat) (key : String)
    (members : List (String × Json)) (name : String) :
    ((builder.sampledType levels key members).field? name).isSome ↔
      builder.Knows key members name ∨
        (∀ other, ¬ builder.Knows key members other) ∧ name = builder.options.fallbackField := by
  simp only [Option.isSome_iff_exists, field?_sampledType, mem_memberNames_iff,
    memberNames_eq_nil_iff]
  constructor
  · rintro ⟨_, ⟨known, _⟩ | ⟨unknown, same, _⟩⟩
    · exact Or.inl known
    · exact Or.inr ⟨unknown, same⟩
  · rintro (known | ⟨unknown, same⟩)
    · exact ⟨_, Or.inl ⟨known, rfl⟩⟩
    · exact ⟨_, Or.inr ⟨unknown, same, rfl⟩⟩

/-- The type of a sample is exact. -/
theorem exact_sampledType (builder : Builder) (depth : Nat) (key : String)
    (members : List (String × Json)) :
    builder.Exact key members depth
      (builder.sampledType (builder.levelsAt (depth + 1)) key members) := by
  have field : ∀ {name}, builder.Knows key members name →
      (builder.sampledType (builder.levelsAt (depth + 1)) key members).field? name =
        some (builder.sampledField (builder.levelsAt (depth + 1)) name
          (builder.memberSample key members name)) := fun known =>
    field?_sampledType_of_mem _ (mem_memberNames_iff.mpr known)
  constructor
  case named => exact name_sampledType ..
  case fields => exact builder.isSome_field?_sampledType _ key members
  case valued =>
    intro name sample cache found
    have own := Entries.lookup_isSome_iff_mem_keys.mp (Option.isSome_of_eq_some found)
    rw [field (Or.inl own), fieldAt_fst, memberSample, found]
  case flagged =>
    intro name cache absent flagged
    rw [field (known_of_isObject members flagged), fieldAt_fst, memberSample, absent, flagged]
    rfl
  case unflagged =>
    intro name cache absent known unset
    rw [field known, fieldAt_fst, memberSample, absent, unset]
    rfl
  case fallback =>
    intro unknown
    exact field?_sampledType.mpr (Or.inr ⟨memberNames_eq_nil_iff.mpr unknown, rfl, rfl⟩)

/-- Nested calls have fewer levels left. -/
theorem Leads.levels_le {types : Dict ObjectType} {first last : Call}
    (leads : builder.Leads types first last) : last.levels ≤ first.levels := by
  have step : ∀ {outer inner : Call}, builder.Nested types outer inner →
      outer.levels ≤ first.levels → inner.levels ≤ first.levels := by
    intro outer inner nested bound
    cases nested with
    | member => exact Nat.le_of_succ_le bound
    | item => exact Nat.le_of_succ_le bound
  exact leads.invariant step (Nat.le_refl _)

/-- A type that a call at a depth makes is exact at this depth or deeper. -/
theorem exists_exact_of_makes {types : Dict ObjectType} {depth : Nat} {key : String}
    {sample : Json} {pending : List String} {object : ObjectType}
    (makes : builder.Makes types ⟨builder.levelsAt depth, key, sample, pending⟩ object) :
    ∃ typeKey members typeDepth, depth ≤ typeDepth ∧ typeDepth ≤ builder.options.maxDepth ∧
      builder.Exact typeKey members typeDepth object := by
  obtain ⟨opener, leads, opens⟩ := makes
  have bound := leads.levels_le
  cases opens with
  | @intro levels typeKey members inner fresh =>
      have room : levels + 1 ≤ builder.options.maxDepth + 1 - depth := bound
      refine ⟨typeKey, members, builder.options.maxDepth - levels, by omega, by omega, ?_⟩
      have same : levels = builder.levelsAt (builder.options.maxDepth - levels + 1) := by
        rw [levelsAt]
        omega
      rw [congrArg (fun left => builder.sampledType left typeKey members) same]
      exact builder.exact_sampledType _ typeKey members

/-- An object whose name is new gives the type of the name. -/
theorem get?_fieldWithin_object {levels : Nat} {key : String} {members : List (String × Json)}
    {cache : TypeCache} (unknown : cache.contains (builder.namer key) = false) :
    (builder.fieldWithin (levels + 1) key (.object members) cache).2.types.get?
      (builder.namer key) = some (builder.sampledType levels key members) := by
  have same := addFields_fst (fieldWithin_fst builder levels) (builder.memberSamples key members)
    (.empty (builder.namer key)) (cache.reserve (builder.namer key))
  rw [fieldWithin, objectField, if_neg (by simp [unknown])]
  dsimp only
  rw [same, ← sampledType, TypeCache.get?_insert_types, name_sampledType, if_pos rfl]

/-- The field that a build returns depends on the key, the sample, the depth, the ceiling and the
names of types alone. Every type that the build adds to the cache is exact for a key with its name,
and an object whose name is new is itself the sample of its type. -/
theorem fieldAt_exact (builder : Builder) (cache : TypeCache) (depth : Nat) (key : String)
    (sample : Json) :
    (∀ (other : Builder) (otherCache : TypeCache), other.namer = builder.namer →
      other.options.maxDepth = builder.options.maxDepth →
      (other.fieldAt depth key sample otherCache).1 = (builder.fieldAt depth key sample cache).1) ∧
    (∀ name object,
      (builder.fieldAt depth key sample cache).2.types.get? name = some object →
      cache.types.get? name ≠ some object →
      ∃ typeKey members typeDepth, builder.namer typeKey = name ∧ depth ≤ typeDepth ∧
        typeDepth ≤ builder.options.maxDepth ∧
        builder.Exact typeKey members typeDepth object) ∧
    ∀ members, sample = .object members → depth ≤ builder.options.maxDepth →
      cache.contains (builder.namer key) = false →
      ∃ object, (builder.fieldAt depth key sample cache).2.types.get? (builder.namer key) =
          some object ∧
        builder.Exact key members depth object := by
  have grows := builder.fieldWithin_grows (builder.levelsAt depth) key sample cache
  refine ⟨?_, ?_, ?_⟩
  · intro other otherCache sameNamer sameCeiling
    rw [fieldAt_fst, fieldAt_fst, sampledField_congr sameNamer, levelsAt, levelsAt, sameCeiling]
  · intro name object stored new
    rcases grows.origin stored with older | ⟨_, named, call, rfl, makes⟩
    · exact absurd older new
    · obtain ⟨typeKey, members, typeDepth, deeper, shallow, agrees⟩ := exists_exact_of_makes makes
      exact ⟨typeKey, members, typeDepth, agrees.named.symm.trans named, deeper, shallow, agrees⟩
  · rintro members rfl shallow unknown
    have levels : builder.levelsAt depth = builder.levelsAt (depth + 1) + 1 := by
      rw [levelsAt, levelsAt]
      omega
    refine ⟨_, ?_, builder.exact_sampledType depth key members⟩
    rw [fieldAt, levels]
    exact get?_fieldWithin_object unknown

/-- The bucket of `info` holds an object `geo` and a text `tag`. -/
def tagged : Builder where
  options := .standard
  namer := .withSuffix "Object"
  unions := .collect (.object [("a", .object [("info", .object [("geo", .object [("lat", .null)])])]),
    ("b", .object [("info", .object [("tag", .string "t")])])])

def taggedGeo : ObjectType :=
  (ObjectType.empty "geoObject").addField (.scalar "lat" .string)

/-- The sample gives the type of `info` and the bucket expands it to that of `geo`. -/
theorem fieldAt_exact_tagged :
    let cache := (tagged.fieldAt 3 "info" (.object [("name", .null)]) .empty).2
    (∃ object, cache.types.get? "infoObject" = some object ∧
      tagged.Exact "info" [("name", .null)] 3 object) ∧
    cache.types.get? "geoObject" = some taggedGeo ∧
      ∃ key members depth, tagged.namer key = "geoObject" ∧ 3 ≤ depth ∧
        tagged.Exact key members depth taggedGeo := by
  intro cache
  have built := fieldAt_exact tagged .empty 3 "info" (.object [("name", .null)])
  have stored : cache.types.get? "geoObject" = some taggedGeo := by decide +kernel
  obtain ⟨key, members, depth, named, deeper, _, agrees⟩ :=
    built.2.1 "geoObject" taggedGeo stored nofun
  exact ⟨built.2.2 _ rfl (by decide) rfl, stored, key, members, depth, named, deeper, agrees⟩

end Builder

end SchemaInference
