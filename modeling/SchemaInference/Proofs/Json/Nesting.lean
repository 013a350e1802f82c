/-
This file bounds the keys and the nesting of values and of their merges.
-/

import SchemaInference.Proofs.Json.Merged
import SchemaInference.Proofs.Json.Occurring

namespace SchemaInference.Json

mutual

/-- The number of brackets that are open at the innermost place of a value. -/
def nesting : Json → Nat
  | array items => itemsNesting items + 1
  | object members => membersNesting members + 1
  | _ => 0

def itemsNesting : List Json → Nat
  | [] => 0
  | item :: rest => max (nesting item) (itemsNesting rest)

def membersNesting : List (String × Json) → Nat
  | [] => 0
  | (_, value) :: rest => max (nesting value) (membersNesting rest)

end

/-- The keys of all members at any depth. -/
def keys (document : Json) : Finset String :=
  (document.occurring.map Prod.fst).toFinset

theorem mem_keys_of_occurring {document : Json} {member : String × Json}
    (occurs : member ∈ document.occurring) : member.1 ∈ document.keys :=
  List.mem_toFinset.mpr (List.mem_map_of_mem occurs)

/-- The value opens at most that many brackets inside one another, and its keys are among the given
ones. -/
def Within (keys : Finset String) : Nat → Json → Prop
  | levels + 1, array items => ∀ item ∈ items, Within keys levels item
  | levels + 1, object members => ∀ member ∈ members,
      member.1 ∈ keys ∧ Within keys levels member.2
  | 0, array _ => False
  | 0, object _ => False
  | _, _ => True

/-- The keys of the members are among the given ones, and so are those of their values. -/
def MembersWithin (keys : Finset String) (levels : Nat) (members : List (String × Json)) : Prop :=
  ∀ member ∈ members, member.1 ∈ keys ∧ Within keys levels member.2

/-- An object opens a bracket around its members. -/
theorem Within.exists_members {keys : Finset String} {levels : Nat}
    {members : List (String × Json)} (within : (object members).Within keys levels) :
    ∃ inner, levels = inner + 1 ∧ MembersWithin keys inner members := by
  cases levels with
  | zero => exact within.elim
  | succ inner => exact ⟨inner, rfl, within⟩

theorem Within.succ {keys : Finset String} {levels : Nat} {value : Json}
    (within : value.Within keys levels) : value.Within keys (levels + 1) := by
  induction levels generalizing value with
  | zero =>
      cases value with
      | array | object => exact within.elim
      | _ => trivial
  | succ levels inductionHypothesis =>
      cases value with
      | array items => exact fun item listed => inductionHypothesis (within item listed)
      | object members =>
          exact fun member inside => (within member inside).imp_right inductionHypothesis
      | _ => trivial

theorem nesting_le_itemsNesting {items : List Json} {item : Json} (listed : item ∈ items) :
    item.nesting ≤ itemsNesting items := by
  induction items with
  | nil => cases listed
  | cons head rest inductionHypothesis =>
      rw [itemsNesting]
      rcases List.mem_cons.mp listed with rfl | later
      · exact le_max_left _ _
      · exact (inductionHypothesis later).trans (le_max_right _ _)

theorem nesting_le_membersNesting {members : List (String × Json)} {member : String × Json}
    (inside : member ∈ members) : member.2.nesting ≤ membersNesting members := by
  induction members with
  | nil => cases inside
  | cons head rest inductionHypothesis =>
      rw [membersNesting]
      rcases List.mem_cons.mp inside with rfl | later
      · exact le_max_left _ _
      · exact (inductionHypothesis later).trans (le_max_right _ _)

/-- A value lies within its own keys and nesting. -/
theorem within_of_nesting_le {keys : Finset String} {levels : Nat} {value : Json}
    (known : ∀ member ∈ value.occurring, member.1 ∈ keys) (flat : value.nesting ≤ levels) :
    value.Within keys levels := by
  induction levels generalizing value with
  | zero =>
      cases value with
      | array | object => exact absurd flat (Nat.not_succ_le_zero _)
      | _ => trivial
  | succ levels inductionHypothesis =>
      cases value with
      | array items =>
          intro item listed
          refine inductionHypothesis (fun member occurs => known member ?_) ?_
          · exact mem_occurringItems_of_mem listed occurs
          · exact (nesting_le_itemsNesting listed).trans (Nat.le_of_succ_le_succ flat)
      | object members =>
          intro member inside
          have occurs := mem_occurring_of_mem inside
          refine ⟨known member occurs, inductionHypothesis (fun inner deeper => known inner ?_) ?_⟩
          · exact mem_occurring_trans _ occurs deeper
          · exact (nesting_le_membersNesting inside).trans (Nat.le_of_succ_le_succ flat)
      | _ => trivial

/-- A merge opens no more brackets than its samples and has no other keys. -/
theorem membersWithin_merge {keys : Finset String} {levels : Nat}
    {samples : List (List (String × Json))}
    (within : ∀ members ∈ samples, MembersWithin keys levels members) :
    MembersWithin keys levels (merge samples) := by
  induction levels generalizing samples with
  | zero =>
      rintro ⟨key, value⟩ inside
      rcases mem_merge inside with ⟨members, sample, member⟩ | ⟨objects, nonempty, _, each⟩
      · exact within members sample _ member
      · obtain ⟨inner, listed⟩ := List.exists_mem_of_ne_nil objects nonempty
        obtain ⟨members, sample, member⟩ := each inner listed
        exact (within members sample _ member).2.elim
  | succ levels inductionHypothesis =>
      rintro ⟨key, value⟩ inside
      rcases mem_merge inside with ⟨members, sample, member⟩ | ⟨objects, nonempty, rfl, each⟩
      · exact within members sample _ member
      · constructor
        · obtain ⟨inner, listed⟩ := List.exists_mem_of_ne_nil objects nonempty
          obtain ⟨members, sample, member⟩ := each inner listed
          exact (within members sample _ member).1
        · refine inductionHypothesis fun inner listed => ?_
          obtain ⟨members, sample, member⟩ := each inner listed
          exact (within members sample _ member).2

end SchemaInference.Json
