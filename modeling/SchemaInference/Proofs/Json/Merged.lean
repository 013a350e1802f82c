/-
This file says where the members of merged samples come from.
-/

import SchemaInference.Inference.Merge
import SchemaInference.Proofs.Dict
import SchemaInference.Proofs.Json.Canonical

namespace SchemaInference.Json

variable {samples : List (List (String × Json))} {key : String}

theorem members?_eq_some_iff {value : Json} {members : List (String × Json)} :
    value.members? = some members ↔ value = object members := by
  cases value <;> simp [members?]

/-- Values have members when all of them are objects. -/
theorem mapM_members?_eq_some_iff {values : List Json} {objects : List (List (String × Json))} :
    values.mapM members? = some objects ↔ values = objects.map object := by
  induction values generalizing objects with
  | nil => cases objects <;> simp
  | cons value rest inductionHypothesis =>
      rw [List.mapM_cons]
      simp only [Option.bind_eq_bind, Option.bind_eq_some_iff, members?_eq_some_iff,
        inductionHypothesis]
      constructor
      · rintro ⟨members, rfl, others, rfl, same⟩
        obtain rfl := Option.some.inj same
        rfl
      · intro same
        cases objects with
        | nil => cases same
        | cons members others =>
            obtain ⟨rfl, rfl⟩ := List.cons.inj same
            exact ⟨members, rfl, others, rfl, rfl⟩

theorem exists_mem_of_mem_occurrences {value : Json} (occurs : value ∈ occurrences key samples) :
    ∃ members ∈ samples, (key, value) ∈ members := by
  obtain ⟨members, sample, found⟩ := List.mem_filterMap.mp occurs
  exact ⟨members, sample, Entries.mem_of_lookup found⟩

/-- This function merges the values of one key. The last of them is given apart. -/
def mergeValues (last : Json) : List Json → Json
  | [] => last
  | [single] => single
  | first :: second :: rest =>
      match (first :: second :: rest).mapM members? with
      | some objects => object (merge objects)
      | none => last

/-- Each key is merged by itself. -/
theorem merge_eq (samples : List (List (String × Json))) :
    merge samples = (Entries.ofList samples.flatten).map fun entry =>
      (entry.1, mergeValues entry.2 (occurrences entry.1 samples)) := by
  rw [merge]
  refine List.map_congr_left fun entry _ => ?_
  dsimp only
  split
  · next occurring => rw [occurring]; rfl
  · next occurring => rw [occurring]; rfl
  · next occurring =>
      rw [occurring, mergeValues]
      split
      · next nested => rw [nested]
      · next mixed => rw [mixed]

/-- Merged objects are smaller than the samples that hold them. -/
theorem totalSize_lt_of_nested {objects : List (List (String × Json))} {first : Json}
    {rest : List Json} (occurring : occurrences key samples = first :: rest)
    (nested : (first :: rest).mapM members? = some objects) :
    totalSize objects < totalSize samples := by
  have inside := sizeOf_occurrences key samples
  have bound := totalSize_le_of_members nested
  rw [occurring, List.length_cons] at inside
  omega

/-- Merged values are the last of them, a single one or the merge of objects. -/
theorem mergeValues_cases (last : Json) (values : List Json) :
    mergeValues last values = last ∨ mergeValues last values ∈ values ∨
      ∃ objects, objects ≠ [] ∧ values = objects.map object ∧
        mergeValues last values = object (merge objects) := by
  fun_cases mergeValues with
  | case1 => exact Or.inl rfl
  | case2 single => exact Or.inr (Or.inl List.mem_cons_self)
  | case3 first second rest objects nested =>
      have values := mapM_members?_eq_some_iff.mp nested
      refine Or.inr (Or.inr ⟨objects, ?_, values, rfl⟩)
      rintro rfl
      cases values
  | case4 => exact Or.inl rfl

/-- A merged value is the value of a sample, or it merges objects that samples have under its
key. -/
theorem mem_merge {value : Json} (inside : (key, value) ∈ merge samples) :
    (∃ members ∈ samples, (key, value) ∈ members) ∨
      ∃ objects, objects ≠ [] ∧ value = object (merge objects) ∧
        ∀ inner ∈ objects, ∃ members ∈ samples, (key, object inner) ∈ members := by
  rw [merge_eq] at inside
  obtain ⟨⟨name, last⟩, sorted, same⟩ := List.mem_map.mp inside
  obtain ⟨rfl, rfl⟩ := Prod.mk.inj same
  dsimp only
  rcases mergeValues_cases last (occurrences name samples) with kept | single | ⟨objects, all⟩
  · rw [kept]
    exact Or.inl (List.mem_flatten.mp (Entries.mem_of_mem_ofList sorted))
  · exact Or.inl (exists_mem_of_mem_occurrences single)
  · obtain ⟨nonempty, values, merged⟩ := all
    refine Or.inr ⟨objects, nonempty, merged, fun inner listed => ?_⟩
    exact exists_mem_of_mem_occurrences (values ▸ List.mem_map_of_mem listed)

/-- Samples are the members of objects that are read. -/
def CanonicalSamples (samples : List (List (String × Json))) : Prop :=
  ∀ sample ∈ samples, (object sample).Canonical

theorem CanonicalSamples.occurring (canonical : CanonicalSamples samples)
    {objects : List (List (String × Json))}
    (occurring : occurrences key samples = objects.map object) : CanonicalSamples objects := by
  intro inner listed
  obtain ⟨sample, given, inside⟩ := exists_mem_of_mem_occurrences
    (occurring ▸ List.mem_map_of_mem listed : object inner ∈ occurrences key samples)
  exact canonicalMembers_iff.mp (canonical sample given).2 _ inside

/-- The last of the samples with a key has the last value of the key. -/
theorem lookup_reverse_flatten (canonical : CanonicalSamples samples) :
    samples.flatten.reverse.lookup key = (occurrences key samples).getLast? := by
  induction samples using List.reverseRecOn with
  | nil => rfl
  | append_singleton first last inductionHypothesis =>
      have before := inductionHypothesis fun sample given =>
        canonical sample (List.mem_append_left _ given)
      have ascending := (canonical last (List.mem_append_right _ List.mem_cons_self)).1
      rw [List.flatten_append, List.flatten_singleton, List.reverse_append, List.lookup_append,
        before, Entries.lookup_reverse ascending, occurrences, occurrences, List.filterMap_append,
        List.getLast?_append, List.filterMap_cons]
      cases last.lookup key <;> rfl

/-- The merge of one sample is the sample. -/
theorem merge_singleton {sample : List (String × Json)} (canonical : (object sample).Canonical) :
    merge [sample] = sample := by
  have ascending := canonical.1
  rw [merge_eq, List.flatten_singleton, Entries.ofList_eq_self ascending]
  refine (List.map_congr_left fun entry inside => ?_).trans (List.map_id sample)
  obtain ⟨name, value⟩ := entry
  rw [occurrences, List.filterMap_cons, ascending.lookup_of_mem inside]
  rfl

theorem lookup_merge (canonical : CanonicalSamples samples) :
    (merge samples).lookup key = (occurrences key samples).getLast?.map fun last =>
      mergeValues last (occurrences key samples) := by
  rw [merge_eq,
    Entries.lookup_map_values fun name last => mergeValues last (occurrences name samples),
    Entries.lookup_ofList, lookup_reverse_flatten canonical]

/-- A key that holds only objects holds their merge. -/
theorem lookup_merge_of_objects (canonical : CanonicalSamples samples)
    {objects : List (List (String × Json))} (nonempty : objects ≠ [])
    (occurring : occurrences key samples = objects.map object) :
    (merge samples).lookup key = some (object (merge objects)) := by
  have inner := canonical.occurring occurring
  rw [lookup_merge canonical, occurring]
  match objects, nonempty with
  | [single], _ =>
      rw [merge_singleton (inner single List.mem_cons_self)]
      rfl
  | first :: second :: rest, _ =>
      have all : (object first :: object second :: rest.map object).mapM members? =
          some (first :: second :: rest) := mapM_members?_eq_some_iff.mpr rfl
      rw [List.map_cons, List.map_cons, List.getLast?_eq_some_getLast (List.cons_ne_nil _ _),
        Option.map_some, mergeValues, all]

/-- A key that some sample gives another value than an object has the value of the last sample. -/
theorem lookup_merge_of_mixed (canonical : CanonicalSamples samples)
    (mixed : ∀ objects : List (List (String × Json)), objects ≠ [] →
      occurrences key samples ≠ objects.map object) :
    (merge samples).lookup key = (occurrences key samples).getLast? := by
  rw [lookup_merge canonical]
  generalize occurrences key samples = values at mixed ⊢
  match values with
  | [] => rfl
  | [single] => rfl
  | first :: second :: rest =>
      have notAll : (first :: second :: rest).mapM members? = none := by
        rw [Option.eq_none_iff_forall_ne_some]
        intro objects all
        have same := mapM_members?_eq_some_iff.mp all
        refine mixed objects ?_ same
        rintro rfl
        cases same
      simp only [mergeValues, notAll, Option.map_id']

end SchemaInference.Json
