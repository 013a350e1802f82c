/-
This file lists the members that occur in a document at any depth.
-/

import SchemaInference.Json.Value
import SchemaInference.Resolution
import Mathlib.Data.Finset.Image

namespace SchemaInference.Json

mutual

/-- This function lists every member of every object inside a value. -/
def occurring : Json → List (String × Json)
  | array items => occurringItems items
  | object members => occurringMembers members
  | _ => []

def occurringItems : List Json → List (String × Json)
  | [] => []
  | item :: rest => occurring item ++ occurringItems rest

def occurringMembers : List (String × Json) → List (String × Json)
  | [] => []
  | (key, value) :: rest => (key, value) :: (occurring value ++ occurringMembers rest)

end

/-- These keys have an object for a value somewhere in the document. -/
def objectKeys (document : Json) : Finset String :=
  ((document.occurring.filter fun member => member.2.isObject).map Prod.fst).toFinset

theorem mem_objectKeys_iff {document : Json} {key : String} :
    key ∈ document.objectKeys ↔
      ∃ value, (key, value) ∈ document.occurring ∧ value.isObject := by
  simp [objectKeys]

theorem occurringItems_eq_flatMap (items : List Json) :
    occurringItems items = items.flatMap occurring := by
  induction items with
  | nil => rfl
  | cons item rest inductionHypothesis =>
      rw [occurringItems, inductionHypothesis, List.flatMap_cons]

theorem occurringMembers_eq_flatMap (members : List (String × Json)) :
    occurringMembers members = members.flatMap fun member => member :: member.2.occurring := by
  induction members with
  | nil => rfl
  | cons member rest inductionHypothesis =>
      rw [occurringMembers, inductionHypothesis, List.flatMap_cons]
      rfl

theorem mem_occurringMembers_of_mem {members : List (String × Json)} {member : String × Json}
    (inside : member ∈ members) : member ∈ occurringMembers members := by
  rw [occurringMembers_eq_flatMap]
  exact List.mem_flatMap.mpr ⟨member, inside, List.mem_cons_self⟩

/-- A member of an object occurs in it. -/
theorem mem_occurring_of_mem {members : List (String × Json)} {member : String × Json}
    (inside : member ∈ members) : member ∈ (object members).occurring :=
  mem_occurringMembers_of_mem inside

/-- What occurs in an item occurs in the items. -/
theorem mem_occurringItems_of_mem {items : List Json} {item : Json} {member : String × Json}
    (listed : item ∈ items) (inside : member ∈ item.occurring) :
    member ∈ occurringItems items := by
  rw [occurringItems_eq_flatMap]
  exact List.mem_flatMap.mpr ⟨item, listed, inside⟩

mutual

/-- What occurs in the value of an occurring member occurs as well. -/
theorem mem_occurring_trans {key : String} {inner : Json} {member : String × Json} :
    (document : Json) → (key, inner) ∈ document.occurring → member ∈ inner.occurring →
      member ∈ document.occurring
  | array items, outer, inside => mem_occurringItems_trans items outer inside
  | object members, outer, inside => mem_occurringMembers_trans members outer inside

theorem mem_occurringItems_trans {key : String} {inner : Json} {member : String × Json} :
    (items : List Json) → (key, inner) ∈ occurringItems items → member ∈ inner.occurring →
      member ∈ occurringItems items
  | item :: rest, outer, inside => by
      rcases List.mem_append.mp outer with first | later
      · exact List.mem_append_left _ (mem_occurring_trans item first inside)
      · exact List.mem_append_right _ (mem_occurringItems_trans rest later inside)

theorem mem_occurringMembers_trans {key : String} {inner : Json} {member : String × Json} :
    (members : List (String × Json)) → (key, inner) ∈ occurringMembers members →
      member ∈ inner.occurring → member ∈ occurringMembers members
  | (_, value) :: rest, outer, inside => by
      apply List.mem_cons_of_mem
      rcases List.mem_cons.mp outer with same | deeper
      · obtain ⟨_, rfl⟩ := Prod.mk.inj same
        exact List.mem_append_left _ inside
      · rcases List.mem_append.mp deeper with first | later
        · exact List.mem_append_left _ (mem_occurring_trans value first inside)
        · exact List.mem_append_right _ (mem_occurringMembers_trans rest later inside)

end

/-- The members of an occurring object occur. -/
theorem mem_occurring_member {document : Json} {key : String} {members : List (String × Json)}
    {member : String × Json} (outer : (key, object members) ∈ document.occurring)
    (inside : member ∈ members) : member ∈ document.occurring :=
  mem_occurring_trans document outer (mem_occurring_of_mem inside)

end SchemaInference.Json
