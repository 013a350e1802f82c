/-
This file shows that the builder takes from an array nothing but the sample of its items.
-/

import SchemaInference.Proofs.Inference.Change

namespace SchemaInference

open Builder Entries

namespace Json

mutual

/-- The digest of a value puts the sample of its items for an array. The null after the sample keeps
it from being merged once more. -/
def digest : Json → Json
  | array items =>
      match digestItems items with
      | [] => array []
      | first :: rest => array [itemSample first rest, null]
  | object members => object (digestMembers members)
  | value => value

def digestItems : List Json → List Json
  | [] => []
  | item :: rest => digest item :: digestItems rest

def digestMembers : List (String × Json) → List (String × Json)
  | [] => []
  | (key, value) :: rest => (key, digest value) :: digestMembers rest

end

theorem digestItems_eq_map (items : List Json) : digestItems items = items.map digest := by
  induction items with
  | nil => rfl
  | cons item rest inductionHypothesis => rw [digestItems, inductionHypothesis, List.map_cons]

theorem digestMembers_eq_mapValues (members : List (String × Json)) :
    digestMembers members = mapValues digest members := by
  induction members with
  | nil => rfl
  | cons member rest inductionHypothesis =>
      rw [digestMembers, inductionHypothesis]
      rfl

theorem digest_object (members : List (String × Json)) :
    (object members).digest = object (mapValues digest members) := by
  rw [digest, digestMembers_eq_mapValues]

theorem keepsObjects_digest : KeepsObjects digest where
  members?_eq := by
    intro value
    cases value with
    | object members => rw [digest_object, members?, members?, Option.map_some]
    | array items =>
        rw [digest]
        cases digestItems items <;> rfl
    | _ => rfl
  null_eq := rfl

/-- The items of an array may be digested before or after they are sampled. -/
theorem digest_array_cons (first : Json) (rest : List Json) :
    (array (first :: rest)).digest = array [(itemSample first rest).digest, null] := by
  rw [digest, digestItems_eq_map, List.map_cons]
  dsimp only
  rw [itemSample_map keepsObjects_digest]

/-- Arrays have the same digest when their items have the same digests. -/
theorem digest_array_congr {items others : List Json}
    (same : items.map digest = others.map digest) :
    (array items).digest = (array others).digest := by
  rw [digest, digest, digestItems_eq_map, digestItems_eq_map, same]

end Json

namespace Builder

open Json

variable {builder : Builder}

/-- A null among the items keeps the first item for their sample. -/
theorem itemSample_null (first : Json) : itemSample first [null] = first := by
  cases first <;> rfl

/-- A build takes from its sample nothing but the digest. -/
theorem fieldWithin_digest (levels : Nat) (key : String) (sample : Json) (cache : TypeCache) :
    builder.fieldWithin levels key sample.digest cache =
      builder.fieldWithin levels key sample cache := by
  induction levels generalizing key sample cache with
  | zero => rfl
  | succ levels inductionHypothesis =>
      cases sample with
      | object members =>
          rw [digest_object, fieldWithin, fieldWithin, objectField, objectField,
            memberSamples_mapValues keepsObjects_digest, addFields_mapValues inductionHypothesis]
      | array items =>
          cases items with
          | nil => rfl
          | cons first rest =>
              rw [digest_array_cons, fieldWithin, fieldWithin, listField, listField,
                itemSample_null, inductionHypothesis]
      | _ => rfl

end Builder

end SchemaInference
