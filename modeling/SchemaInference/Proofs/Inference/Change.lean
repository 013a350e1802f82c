/-
This file shows how the builder samples values that are changed.
-/

import SchemaInference.Inference.Builder
import SchemaInference.Proofs.Json.Change

namespace SchemaInference.Builder

open Entries Json

section Keeps

variable {change : Json → Json} {builder : Builder}

/-- The items of an array may be changed before or after they are sampled. -/
theorem itemSample_map (keeps : KeepsObjects change) (first : Json) (rest : List Json) :
    itemSample (change first) (rest.map change) = change (itemSample first rest) := by
  unfold itemSample
  rw [← List.map_cons, keeps.mapM_members?_map]
  cases (first :: rest).mapM members? with
  | none => rfl
  | some objects =>
      show object (merge (objects.map (mapValues change))) = change (object (merge objects))
      rw [keeps.merge_map, keeps.object_eq]

theorem memberNames_mapValues (change : Json → Json) (key : String)
    (members : List (String × Json)) :
    builder.memberNames key (mapValues change members) = builder.memberNames key members := by
  rw [memberNames, memberNames, map_fst_mapValues]

theorem memberSample_mapValues (keeps : KeepsObjects change) (key : String)
    (members : List (String × Json)) (name : String) :
    builder.memberSample key (mapValues change members) name =
      change (builder.memberSample key members name) := by
  rw [memberSample, memberSample, lookup_mapValues]
  cases members.lookup name with
  | some value => rfl
  | none =>
      show (if builder.unions.isObject key name then object [] else null) =
        change (if builder.unions.isObject key name then object [] else null)
      split
      · exact (keeps.object_eq []).symm
      · exact keeps.null_eq.symm

theorem memberSamples_mapValues (keeps : KeepsObjects change) (key : String)
    (members : List (String × Json)) :
    builder.memberSamples key (mapValues change members) =
      mapValues change (builder.memberSamples key members) := by
  rw [memberSamples, memberSamples, memberNames_mapValues]
  simp only [memberSample_mapValues keeps]
  rw [mapValues, List.map_map]
  rfl

end Keeps

/-- A build that does not see a change gives the fields of the samples without it. -/
theorem addFields_mapValues {change : Json → Json} {build : Build}
    (blind : ∀ key sample cache, build key (change sample) cache = build key sample cache)
    (samples : List (String × Json)) (object : ObjectType) (cache : TypeCache) :
    addFields build (mapValues change samples) object cache =
      addFields build samples object cache := by
  induction samples generalizing object cache with
  | nil => rfl
  | cons sample rest inductionHypothesis =>
      obtain ⟨key, value⟩ := sample
      rw [mapValues_cons]
      show addFields build (mapValues change rest)
        (object.addField (build key (change value) cache).1) (build key (change value) cache).2 = _
      rw [blind, inductionHypothesis]
      rfl

end SchemaInference.Builder
