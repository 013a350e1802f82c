/-
This file shows that the order of samples does not matter for their merge when they agree.
-/

import SchemaInference.Proofs.Json.Precedence
import SchemaInference.Proofs.Json.Shape

namespace SchemaInference.Json

open Entries

/-- Samples agree when the values that they have at a path of member names are all objects, or are
all other values of one shape. -/
def Agreeing (samples : List (List (String × Json))) : Prop :=
  ∀ path, (∀ value ∈ valuesAt path samples, value.isObject = true) ∨
    ∀ first ∈ valuesAt path samples, ∀ second ∈ valuesAt path samples,
      first.isObject = false ∧ first.SameShape second

variable {samples others objects : List (List (String × Json))} {name : String}

/-- The objects that agreeing samples have under a key agree. -/
theorem Agreeing.inner (agreeing : Agreeing samples)
    (occurring : occurrences name samples = objects.map object) : Agreeing objects := by
  intro path
  have inside := agreeing (name :: path)
  rwa [valuesAt_cons_of_objects occurring] at inside

theorem at?_cons_of_not_isObject {value : Json} (plain : value.isObject = false) (name : String)
    (rest : List String) : value.at? ((name :: rest).map .field) = none := by
  cases value with
  | object => cases plain
  | _ => rfl

/-- Samples agree when they agree key by key. -/
theorem agreeing_iff : Agreeing samples ↔ ∀ name,
    (∃ objects, occurrences name samples = objects.map object ∧ Agreeing objects) ∨
      ∀ first ∈ occurrences name samples, ∀ second ∈ occurrences name samples,
        first.isObject = false ∧ first.SameShape second := by
  constructor
  · intro agreeing name
    rw [← valuesAt_singleton]
    refine (agreeing [name]).imp_left fun all => ?_
    obtain ⟨objects, values⟩ := exists_eq_map_object all
    exact ⟨objects, values, agreeing.inner (valuesAt_singleton name samples ▸ values)⟩
  · intro each path
    cases path with
    | nil =>
        refine Or.inl fun value inside => ?_
        obtain ⟨members, _, same⟩ := List.mem_filterMap.mp inside
        obtain rfl := Option.some.inj same
        rfl
    | cons name rest =>
        rcases each name with ⟨objects, occurring, agreeing⟩ | sameShape
        · rw [valuesAt_cons_of_objects occurring]
          exact agreeing rest
        · cases rest with
          | nil =>
              rw [valuesAt_singleton]
              exact Or.inr sameShape
          | cons next others =>
              refine Or.inl fun value inside => ?_
              rw [valuesAt_cons] at inside
              obtain ⟨outer, occurs, found⟩ := List.mem_filterMap.mp inside
              rw [at?_cons_of_not_isObject (sameShape outer occurs outer occurs).1] at found
              cases found

theorem CanonicalSamples.perm (canonical : CanonicalSamples samples) (perm : samples.Perm others) :
    CanonicalSamples others := fun sample listed => canonical sample (perm.mem_iff.mpr listed)

theorem CanonicalSamples.of_mem_occurrences (canonical : CanonicalSamples samples) {value : Json}
    (occurs : value ∈ occurrences name samples) : value.Canonical := by
  obtain ⟨members, listed, inside⟩ := exists_mem_of_mem_occurrences occurs
  exact canonicalMembers_iff.mp (canonical members listed).2 _ inside

theorem ascending_merge (samples : List (List (String × Json))) : Ascending (merge samples) := by
  rw [merge_eq]
  exact List.pairwise_map.mpr (ascending_ofList _)

/-- Objects in another order are objects. -/
theorem exists_perm_of_map_object {values : List Json} (perm : (objects.map object).Perm values) :
    ∃ reordered : List (List (String × Json)), values = reordered.map object ∧
      objects.Perm reordered := by
  have all : ∀ value ∈ values, value.isObject = true := by
    intro value listed
    obtain ⟨members, _, rfl⟩ := List.mem_map.mp (perm.mem_iff.mpr listed)
    rfl
  obtain ⟨reordered, rfl⟩ := exists_eq_map_object all
  exact ⟨reordered, rfl, (List.map_perm_map_iff fun _ _ => Json.object.inj).mp perm⟩

/-- The last of some values has their common shape, whatever their order. -/
theorem map_shape_getLast?_perm {values reordered : List Json} (perm : values.Perm reordered)
    (same : ∀ first ∈ values, ∀ second ∈ values, first.shape = second.shape) :
    values.getLast?.map shape = reordered.getLast?.map shape := by
  cases last : values.getLast? with
  | none =>
      obtain rfl := List.getLast?_eq_none_iff.mp last
      rw [← perm.nil_eq]
      rfl
  | some value =>
      have nonempty : reordered ≠ [] := fun empty => by
        rw [empty] at perm
        rw [perm.eq_nil] at last
        cases last
      have inside : reordered.getLast nonempty ∈ values :=
        perm.mem_iff.mpr (List.getLast_mem nonempty)
      rw [List.getLast?_eq_some_getLast nonempty]
      exact congrArg some (same _ (List.mem_of_getLast? last) _ inside)

/-- A key with a plain value has a plain value in any order of the samples, and its last value then
counts. -/
theorem lookup_merge_perm_of_plain (canonical : CanonicalSamples others)
    (perm : samples.Perm others)
    (plain : occurrences name samples ≠ [] → HoldPlain samples [name]) :
    (merge others).lookup name = (occurrences name others).getLast? := by
  refine lookup_merge_of_mixed canonical fun objects nonempty occurring => ?_
  have sameOccurrences : (occurrences name samples).Perm (objects.map object) :=
    occurring ▸ perm.filterMap _
  obtain ⟨value, inside, notObject⟩ := plain fun empty => by
    rw [empty] at sameOccurrences
    exact nonempty (List.map_eq_nil_iff.mp sameOccurrences.nil_eq.symm)
  rw [valuesAt_singleton] at inside
  obtain ⟨members, _, rfl⟩ := List.mem_map.mp (sameOccurrences.mem_iff.mp inside)
  cases notObject

/-- The merges of agreeing samples in any order have the same shape. -/
theorem mapValues_shape_merge_perm (canonical : CanonicalSamples samples)
    (agreeing : Agreeing samples) (perm : samples.Perm others) :
    mapValues shape (merge samples) = mapValues shape (merge others) := by
  -- A key that holds only objects has samples that agree. Under any other key the order decides
  -- which value comes last, but not its shape.
  induction size : totalSize samples using Nat.strongRecOn generalizing samples others with
  | ind bound inductionHypothesis =>
      have otherCanonical := canonical.perm perm
      refine eq_of_lookup_eq (ascending_mapValues (ascending_merge _))
        (ascending_mapValues (ascending_merge _)) fun name => ?_
      rw [lookup_mapValues, lookup_mapValues]
      have sameOccurrences : (occurrences name samples).Perm (occurrences name others) :=
        perm.filterMap _
      rcases lookup_merge_cases canonical name with
        ⟨objects, nonempty, occurring, merged⟩ | ⟨last, plain⟩
      · rw [occurring] at sameOccurrences
        obtain ⟨reordered, otherOccurring, inner⟩ := exists_perm_of_map_object sameOccurrences
        have present : reordered ≠ [] := fun empty => nonempty (empty ▸ inner).eq_nil
        have smaller : totalSize objects < totalSize samples := by
          obtain ⟨first, rest, rfl⟩ := List.exists_cons_of_ne_nil nonempty
          exact totalSize_lt_of_nested occurring (mapM_members?_eq_some_iff.mpr rfl)
        rw [merged, lookup_merge_of_objects otherCanonical present otherOccurring,
          Option.map_some, Option.map_some, shape_object, shape_object,
          inductionHypothesis _ (size ▸ smaller) (canonical.occurring occurring)
            (agreeing.inner occurring) inner rfl]
      · rw [last, lookup_merge_perm_of_plain otherCanonical perm plain]
        refine map_shape_getLast?_perm sameOccurrences fun first inside second otherInside => ?_
        obtain ⟨value, held, notObject⟩ := plain (List.ne_nil_of_mem inside)
        rcases agreeing [name] with allObjects | sameShape
        · rw [allObjects value held] at notObject
          cases notObject
        · rw [valuesAt_singleton] at sameShape
          exact (sameShape first inside second otherInside).2.shape_eq
            (canonical.of_mem_occurrences inside) (canonical.of_mem_occurrences otherInside)

/-- One array somewhere in the first value holds its items in another order in the second value.
Its items are objects that agree. -/
inductive Reordered : Json → Json → Prop where
  | items {objects others : List (List (String × Json))} (agreeing : Agreeing objects)
      (perm : objects.Perm others) :
      Reordered (array (objects.map object)) (array (others.map object))
  | item {first second : Json} (before after : List Json) (inner : Reordered first second) :
      Reordered (array (before ++ first :: after)) (array (before ++ second :: after))
  | member {first second : Json} (before : List (String × Json)) (key : String)
      (after : List (String × Json)) (inner : Reordered first second) :
      Reordered (object (before ++ (key, first) :: after))
        (object (before ++ (key, second) :: after))

/-- The names of an object's members, each with a flag that says whether the member is an object. -/
def flags? (value : Json) : Option (List (String × Bool)) :=
  value.members?.map (mapValues isObject)

theorem mem_mapValues_flags?_iff {members : List (String × Json)} {key : String}
    {flags : List (String × Bool)} :
    (key, some flags) ∈ mapValues flags? members ↔
      ∃ inner, (key, object inner) ∈ members ∧ mapValues isObject inner = flags := by
  simp only [mapValues, List.mem_map, Prod.exists, Prod.map_apply, id, Prod.mk.injEq]
  constructor
  · rintro ⟨_, value, inside, rfl, known⟩
    obtain ⟨inner, isMembers, same⟩ := Option.map_eq_some_iff.mp known
    rw [members?_eq_some_iff] at isMembers
    exact ⟨inner, isMembers ▸ inside, same⟩
  · rintro ⟨inner, inside, same⟩
    exact ⟨key, object inner, inside, rfl, congrArg some same⟩

theorem exists_flags_iff {members : List (String × Json)} {key : String}
    {holds : List (String × Bool) → Prop} :
    (∃ flags, (key, some flags) ∈ mapValues flags? members ∧ holds flags) ↔
      ∃ inner, (key, object inner) ∈ members ∧ holds (mapValues isObject inner) := by
  simp only [mem_mapValues_flags?_iff]
  constructor
  · rintro ⟨_, ⟨inner, inside, rfl⟩, held⟩
    exact ⟨inner, inside, held⟩
  · rintro ⟨inner, inside, held⟩
    exact ⟨_, ⟨inner, inside, rfl⟩, held⟩

theorem Reordered.isObject_eq {first second : Json} (reordered : first.Reordered second) :
    first.isObject = second.isObject := by
  cases reordered <;> rfl

theorem Reordered.flags?_eq {first second : Json} (reordered : first.Reordered second) :
    first.flags? = second.flags? := by
  cases reordered with
  | items => rfl
  | item => rfl
  | member before key after inner =>
      simp [flags?, members?, mapValues, inner.isObject_eq]

/-- The same members occur in another order, as far as their flags tell. -/
theorem Reordered.occurring_perm {first second : Json} (reordered : first.Reordered second) :
    (mapValues flags? first.occurring).Perm (mapValues flags? second.occurring) := by
  induction reordered with
  | items agreeing perm =>
      simp only [occurring, occurringItems_eq_flatMap]
      exact ((perm.map object).flatMap_right _).map _
  | item before after inner inductionHypothesis =>
      simp only [occurring, occurringItems_eq_flatMap, mapValues, List.flatMap_append,
        List.flatMap_cons, List.map_append]
      exact .append_left _ (.append_right _ inductionHypothesis)
  | member before key after inner inductionHypothesis =>
      simp only [occurring, occurringMembers_eq_flatMap, mapValues, List.flatMap_append,
        List.flatMap_cons, List.map_append, List.map_cons, Prod.map_apply, inner.flags?_eq]
      exact .append_left _ (.append_right _ (.cons _ inductionHypothesis))

end SchemaInference.Json
