/-
This file changes the values inside objects and leaves the objects and their keys as they are.
-/

import SchemaInference.Proofs.Json.Merged

namespace SchemaInference

namespace Entries

variable {α β : Type}

/-- This function changes the values and keeps the keys. -/
def mapValues (change : α → β) (entries : List (String × α)) : List (String × β) :=
  entries.map (Prod.map id change)

@[simp] theorem mapValues_cons (change : α → β) (key : String) (value : α)
    (rest : List (String × α)) :
    mapValues change ((key, value) :: rest) = (key, change value) :: mapValues change rest := rfl

theorem map_fst_mapValues (change : α → β) (entries : List (String × α)) :
    (mapValues change entries).map Prod.fst = entries.map Prod.fst := by
  rw [mapValues, List.map_map]
  rfl

theorem lookup_mapValues (change : α → β) (key : String) (entries : List (String × α)) :
    (mapValues change entries).lookup key = (entries.lookup key).map change := by
  induction entries with
  | nil => rfl
  | cons head rest inductionHypothesis =>
      obtain ⟨name, value⟩ := head
      rw [mapValues_cons, List.lookup_cons, List.lookup_cons, inductionHypothesis]
      cases key == name <;> rfl

theorem insert_mapValues (change : α → β) (key : String) (value : α)
    (entries : List (String × α)) :
    insert key (change value) (mapValues change entries) =
      mapValues change (insert key value entries) := by
  induction entries with
  | nil => rfl
  | cons head rest inductionHypothesis =>
      obtain ⟨name, old⟩ := head
      rw [mapValues_cons, insert, insert, inductionHypothesis]
      split
      · rfl
      · split <;> rfl

/-- The values may be changed before or after the entries are sorted. -/
theorem ofList_mapValues (change : α → β) (entries : List (String × α)) :
    ofList (mapValues change entries) = mapValues change (ofList entries) := by
  have fold : ∀ sorted : List (String × α),
      (mapValues change entries).foldl (fun sorted entry => insert entry.1 entry.2 sorted)
          (mapValues change sorted) =
        mapValues change (entries.foldl (fun sorted entry => insert entry.1 entry.2 sorted) sorted)
      := by
    induction entries with
    | nil => exact fun _ => rfl
    | cons entry rest inductionHypothesis =>
        obtain ⟨key, value⟩ := entry
        intro sorted
        have step := inductionHypothesis (insert key value sorted)
        rw [← insert_mapValues] at step
        exact step
  exact fold []

theorem ascending_mapValues {change : α → β} {entries : List (String × α)}
    (ascending : Ascending entries) : Ascending (mapValues change entries) :=
  List.pairwise_map.mpr ascending

end Entries

namespace Json

open Entries

/-- A change keeps objects when it changes their values and nothing else about them, and when it
makes no other value an object. It keeps null as well. -/
structure KeepsObjects (change : Json → Json) : Prop where
  members?_eq : ∀ value, (change value).members? = value.members?.map (mapValues change)
  null_eq : change null = null

theorem occurrences_map_mapValues (change : Json → Json) (key : String)
    (samples : List (List (String × Json))) :
    occurrences key (samples.map (mapValues change)) = (occurrences key samples).map change := by
  rw [occurrences, occurrences, List.filterMap_map, List.map_filterMap]
  congr 1
  funext members
  exact lookup_mapValues change key members

namespace KeepsObjects

variable {change other : Json → Json}

theorem object_eq (keeps : KeepsObjects change) (members : List (String × Json)) :
    change (object members) = object (mapValues change members) :=
  members?_eq_some_iff.mp (keeps.members?_eq (object members))

theorem members?_getD (keeps : KeepsObjects change) (value : Json) :
    (change value).members?.getD [] = mapValues change (value.members?.getD []) := by
  rw [keeps.members?_eq]
  cases value.members? <;> rfl

/-- One change after the other keeps what both keep. -/
theorem comp (outer : KeepsObjects other) (inner : KeepsObjects change) :
    KeepsObjects fun value => other (change value) where
  members?_eq := by
    intro value
    rw [outer.members?_eq, inner.members?_eq, Option.map_map]
    congr 1
    funext members
    simp [mapValues]
  null_eq := by rw [inner.null_eq, outer.null_eq]

theorem mapM_members?_map (keeps : KeepsObjects change) (values : List Json) :
    (values.map change).mapM members? =
      (values.mapM members?).map (List.map (mapValues change)) := by
  induction values with
  | nil => rfl
  | cons value rest inductionHypothesis =>
      rw [List.map_cons, List.mapM_cons, List.mapM_cons, keeps.members?_eq, inductionHypothesis]
      cases value.members? with
      | none => rfl
      | some members => cases rest.mapM members? <;> rfl

/-- The values may be changed before or after the samples are merged. -/
theorem merge_map (keeps : KeepsObjects change) (samples : List (List (String × Json))) :
    merge (samples.map (mapValues change)) = mapValues change (merge samples) := by
  induction size : totalSize samples using Nat.strongRecOn generalizing samples with
  | ind bound inductionHypothesis =>
      have flattened : (samples.map (mapValues change)).flatten =
          mapValues change samples.flatten := List.map_flatten.symm
      rw [merge_eq, merge_eq, flattened, ofList_mapValues, mapValues, mapValues, List.map_map,
        List.map_map]
      refine List.map_congr_left fun entry _ => Prod.ext rfl ?_
      show mergeValues (change entry.2) (occurrences entry.1 (samples.map (mapValues change))) =
        change (mergeValues entry.2 (occurrences entry.1 samples))
      rw [occurrences_map_mapValues]
      cases occurring : occurrences entry.1 samples with
      | nil => rfl
      | cons first others =>
          cases others with
          | nil => rfl
          | cons second rest =>
              have changed := keeps.mapM_members?_map (first :: second :: rest)
              rw [List.map_cons, List.map_cons] at changed ⊢
              rw [mergeValues, mergeValues, changed]
              cases nested : (first :: second :: rest).mapM members? with
              | none => rfl
              | some objects =>
                  have smaller := totalSize_lt_of_nested occurring nested
                  rw [size] at smaller
                  show object (merge (objects.map (mapValues change))) =
                    change (object (merge objects))
                  rw [inductionHypothesis _ smaller objects rfl, keeps.object_eq]

end KeepsObjects

end Json

end SchemaInference
