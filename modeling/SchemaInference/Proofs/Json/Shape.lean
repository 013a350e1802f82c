/-
This file compares values by their shape, which leaves out numbers, booleans and texts.
-/

import SchemaInference.Proofs.Json.Change
import SchemaInference.Proofs.Json.Occurring

namespace SchemaInference

namespace Json

open Entries

/-- Null and the strings are textual. -/
def isTextual : Json → Bool
  | null => true
  | string _ => true
  | _ => false

/-- Two values have the same shape when both are numbers, both are booleans, both are textual, both
are arrays of the same length with items of the same shape, or both are objects with the same keys
and members of the same shape. -/
inductive SameShape : Json → Json → Prop where
  | number (first second : Number) : SameShape (number first) (number second)
  | boolean (first second : Bool) : SameShape (boolean first) (boolean second)
  | textual {first second : Json} (firstTextual : first.isTextual = true)
      (secondTextual : second.isTextual = true) : SameShape first second
  | array {items others : List Json} (sameLength : items.length = others.length)
      (each : ∀ pair ∈ items.zip others, SameShape pair.1 pair.2) :
      SameShape (array items) (array others)
  | object {members others : List (String × Json)}
      (sameKeys : ∀ key, key ∈ members.map Prod.fst ↔ key ∈ others.map Prod.fst)
      (each : ∀ key first second, (key, first) ∈ members → (key, second) ∈ others →
        SameShape first second) : SameShape (object members) (object others)

mutual

/-- The shape of a value puts zero for the numbers, false for the booleans and null for the texts. -/
def shape : Json → Json
  | null => null
  | boolean _ => boolean false
  | number _ => number (.natural 0)
  | string _ => null
  | array items => array (shapeItems items)
  | object members => object (shapeMembers members)

def shapeItems : List Json → List Json
  | [] => []
  | item :: rest => shape item :: shapeItems rest

def shapeMembers : List (String × Json) → List (String × Json)
  | [] => []
  | (key, value) :: rest => (key, shape value) :: shapeMembers rest

end

theorem shapeItems_eq_map (items : List Json) : shapeItems items = items.map shape := by
  induction items with
  | nil => rfl
  | cons item rest inductionHypothesis => rw [shapeItems, inductionHypothesis, List.map_cons]

theorem shapeMembers_eq_mapValues (members : List (String × Json)) :
    shapeMembers members = mapValues shape members := by
  induction members with
  | nil => rfl
  | cons member rest inductionHypothesis =>
      rw [shapeMembers, inductionHypothesis]
      rfl

theorem shape_array (items : List Json) : (array items).shape = array (items.map shape) := by
  rw [shape, shapeItems_eq_map]

theorem shape_object (members : List (String × Json)) :
    (object members).shape = object (mapValues shape members) := by
  rw [shape, shapeMembers_eq_mapValues]

theorem shape_of_isTextual {value : Json} (textual : value.isTextual = true) :
    value.shape = null := by
  cases value with
  | null | string => rfl
  | _ => cases textual

theorem isObject_shape (value : Json) : value.shape.isObject = value.isObject := by
  cases value <;> rfl

theorem keepsObjects_shape : KeepsObjects shape where
  members?_eq := by
    intro value
    cases value with
    | object members => rw [shape_object, members?, members?, Option.map_some]
    | _ => rfl
  null_eq := rfl

mutual

/-- The members that occur in the shape of a value have the shapes of those that occur in it. -/
theorem occurring_shape : (value : Json) →
    value.shape.occurring = mapValues shape value.occurring
  | array items => occurringItems_shape items
  | object members => occurringMembers_shape members
  | null => rfl
  | boolean _ => rfl
  | number _ => rfl
  | string _ => rfl

theorem occurringItems_shape : (items : List Json) →
    occurringItems (shapeItems items) = mapValues shape (occurringItems items)
  | [] => rfl
  | item :: rest => by
      rw [shapeItems, occurringItems, occurringItems, occurring_shape item,
        occurringItems_shape rest, mapValues, mapValues, mapValues, List.map_append]

theorem occurringMembers_shape : (members : List (String × Json)) →
    occurringMembers (shapeMembers members) = mapValues shape (occurringMembers members)
  | [] => rfl
  | (key, value) :: rest => by
      rw [shapeMembers, occurringMembers, occurringMembers, occurring_shape value,
        occurringMembers_shape rest, mapValues_cons, mapValues, mapValues, mapValues,
        List.map_append]

end

/-- Canonical values of the same shape have equal shapes. Ascending members are found by their keys,
so the same keys stand in the same order. -/
theorem SameShape.shape_eq {first second : Json} (same : first.SameShape second)
    (firstCanonical : first.Canonical) (secondCanonical : second.Canonical) :
    first.shape = second.shape := by
  induction same with
  | number | boolean => rfl
  | textual firstTextual secondTextual =>
      rw [shape_of_isTextual firstTextual, shape_of_isTextual secondTextual]
  | @array items others sameLength each inductionHypothesis =>
      rw [shape_array, shape_array]
      congr 1
      have related : List.Forall₂ (fun item other => item.shape = other.shape) items others :=
        List.forall₂_iff_zip.mpr ⟨sameLength, fun inside => inductionHypothesis _ inside
          (canonicalItems_iff.mp firstCanonical _ (List.of_mem_zip inside).1)
          (canonicalItems_iff.mp secondCanonical _ (List.of_mem_zip inside).2)⟩
      rw [← List.forall₂_eq_eq_eq, List.forall₂_map_left_iff, List.forall₂_map_right_iff]
      exact related
  | @object members others sameKeys each inductionHypothesis =>
      rw [shape_object, shape_object]
      congr 1
      refine eq_of_lookup_eq (ascending_mapValues firstCanonical.1)
        (ascending_mapValues secondCanonical.1) fun key => ?_
      rw [lookup_mapValues, lookup_mapValues]
      have present := sameKeys key
      rw [← lookup_isSome_iff_mem_keys, ← lookup_isSome_iff_mem_keys] at present
      cases found : members.lookup key with
      | none =>
          cases other : others.lookup key with
          | none => rfl
          | some value => simp [found, other] at present
      | some value =>
          cases other : others.lookup key with
          | none => simp [found, other] at present
          | some counterpart =>
              have inside := mem_of_lookup found
              have otherInside := mem_of_lookup other
              exact congrArg some (inductionHypothesis key value counterpart inside otherInside
                (canonicalMembers_iff.mp firstCanonical.2 _ inside)
                (canonicalMembers_iff.mp secondCanonical.2 _ otherInside))

end Json

end SchemaInference
