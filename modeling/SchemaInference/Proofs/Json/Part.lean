/-
This file follows a value into its parts.
-/

import Mathlib.Logic.Relation
import SchemaInference.Proofs.Json.Canonical
import SchemaInference.Proofs.Json.Nesting
import SchemaInference.Proofs.Number

namespace SchemaInference.Json

/-- The children of a value are its items or the values of its members. -/
inductive Child : Json → Json → Prop where
  | item {items : List Json} {item : Json} (listed : item ∈ items) : Child (array items) item
  | member {members : List (String × Json)} {member : String × Json} (inside : member ∈ members) :
      Child (object members) member.2

/-- The parts of a value are the value itself and the parts of its children. -/
abbrev Part : Json → Json → Prop :=
  Relation.ReflTransGen Child

theorem Canonical.child {value inner : Json} (canonical : value.Canonical)
    (child : value.Child inner) : inner.Canonical := by
  cases child with
  | item listed => exact canonicalItems_iff.mp canonical _ listed
  | member inside => exact canonicalMembers_iff.mp canonical.2 _ inside

theorem Canonical.part {value part : Json} (canonical : value.Canonical) (inner : value.Part part) :
    part.Canonical := by
  induction inner with
  | refl => exact canonical
  | tail _ child inductionHypothesis => exact inductionHypothesis.child child

theorem Child.nesting_lt {value inner : Json} (child : value.Child inner) :
    inner.nesting < value.nesting := by
  cases child with
  | item listed => exact Nat.lt_succ_of_le (nesting_le_itemsNesting listed)
  | member inside => exact Nat.lt_succ_of_le (nesting_le_membersNesting inside)

theorem Part.nesting_le {value part : Json} (inner : value.Part part) :
    part.nesting ≤ value.nesting := by
  induction inner with
  | refl => exact Nat.le_refl _
  | tail _ child inductionHypothesis => exact child.nesting_lt.le.trans inductionHypothesis

/-- What occurs in a child of a value occurs in the value. -/
theorem Child.mem_occurring {value inner : Json} {member : String × Json}
    (child : value.Child inner) (inside : member ∈ inner.occurring) :
    member ∈ value.occurring := by
  cases child with
  | item listed => exact mem_occurringItems_of_mem listed inside
  | member outer => exact mem_occurring_trans _ (mem_occurring_of_mem outer) inside

theorem Part.mem_occurring {value part : Json} {member : String × Json} (inner : value.Part part)
    (inside : member ∈ part.occurring) : member ∈ value.occurring := by
  induction inner with
  | refl => exact inside
  | tail _ child inductionHypothesis => exact inductionHypothesis (child.mem_occurring inside)

mutual

theorem exists_part_of_mem_occurring {member : String × Json} :
    (value : Json) → member ∈ value.occurring →
      ∃ members, value.Part (object members) ∧ member ∈ members
  | array items, occurs => by
      obtain ⟨item, listed, members, part, inside⟩ :=
        exists_part_of_mem_occurringItems items occurs
      exact ⟨members, .head (.item listed) part, inside⟩
  | object members, occurs => by
      rcases exists_part_of_mem_occurringMembers members occurs with
        own | ⟨outer, listed, inner, part, inside⟩
      · exact ⟨members, .refl, own⟩
      · exact ⟨inner, .head (.member listed) part, inside⟩

theorem exists_part_of_mem_occurringItems {member : String × Json} :
    (items : List Json) → member ∈ occurringItems items →
      ∃ item ∈ items, ∃ members, item.Part (object members) ∧ member ∈ members
  | item :: rest, occurs => by
      rcases List.mem_append.mp occurs with first | later
      · exact ⟨item, List.mem_cons_self, exists_part_of_mem_occurring item first⟩
      · obtain ⟨other, listed, found⟩ := exists_part_of_mem_occurringItems rest later
        exact ⟨other, List.mem_cons_of_mem _ listed, found⟩

theorem exists_part_of_mem_occurringMembers {member : String × Json} :
    (members : List (String × Json)) → member ∈ occurringMembers members →
      member ∈ members ∨
        ∃ outer ∈ members, ∃ inner, outer.2.Part (object inner) ∧ member ∈ inner
  | (key, value) :: rest, occurs => by
      rcases List.mem_cons.mp occurs with rfl | deeper
      · exact Or.inl List.mem_cons_self
      · rcases List.mem_append.mp deeper with first | later
        · exact Or.inr ⟨_, List.mem_cons_self, exists_part_of_mem_occurring value first⟩
        · rcases exists_part_of_mem_occurringMembers rest later with
            own | ⟨outer, listed, found⟩
          · exact Or.inl (List.mem_cons_of_mem _ own)
          · exact Or.inr ⟨outer, List.mem_cons_of_mem _ listed, found⟩

end

/-- The members that occur in a value are those of the objects among its parts. -/
theorem mem_occurring_iff_part {value : Json} {member : String × Json} :
    member ∈ value.occurring ↔ ∃ members, value.Part (object members) ∧ member ∈ members := by
  constructor
  · exact exists_part_of_mem_occurring value
  · rintro ⟨members, part, inside⟩
    exact part.mem_occurring (mem_occurring_of_mem inside)

/-- All numbers in the value are integers. -/
def Integral (value : Json) : Prop :=
  ∀ number, value.Part (.number number) → number.IsInteger

theorem Integral.part {value part : Json} (integral : value.Integral) (inner : value.Part part) :
    part.Integral :=
  fun number deeper => integral number (inner.trans deeper)

theorem integral_iff {value : Json} :
    value.Integral ↔
      (∀ number, value = .number number → number.IsInteger) ∧
        ∀ inner, value.Child inner → inner.Integral := by
  constructor
  · intro integral
    exact ⟨fun number same => integral number (same ▸ .refl),
      fun inner child => integral.part (.single child)⟩
  · rintro ⟨own, children⟩ number inner
    rcases inner.cases_head with same | ⟨first, child, deeper⟩
    · exact own number same
    · exact children first child number deeper

@[simp] theorem integral_null : null.Integral :=
  integral_iff.mpr ⟨nofun, nofun⟩

@[simp] theorem integral_boolean (value : Bool) : (boolean value).Integral :=
  integral_iff.mpr ⟨nofun, nofun⟩

@[simp] theorem integral_string (text : String) : (string text).Integral :=
  integral_iff.mpr ⟨nofun, nofun⟩

@[simp] theorem integral_number_iff {value : Number} :
    (number value).Integral ↔ value.IsInteger := by
  rw [integral_iff]
  exact ⟨fun integral => integral.1 value rfl,
    fun integer => ⟨fun _ same => number.inj same ▸ integer, nofun⟩⟩

@[simp] theorem integral_array_iff {items : List Json} :
    (array items).Integral ↔ ∀ item ∈ items, item.Integral := by
  rw [integral_iff]
  constructor
  · exact fun integral item listed => integral.2 item (.item listed)
  · refine fun integral => ⟨nofun, ?_⟩
    rintro inner ⟨listed⟩
    exact integral inner listed

@[simp] theorem integral_object_iff {members : List (String × Json)} :
    (object members).Integral ↔ ∀ member ∈ members, member.2.Integral := by
  rw [integral_iff]
  constructor
  · exact fun integral member inside => integral.2 _ (.member inside)
  · refine fun integral => ⟨nofun, ?_⟩
    rintro inner (_ | inside)
    exact integral _ inside

end SchemaInference.Json
