/-
This file says when the keys of a document keep one shape, and what their samples can then be.
-/

import SchemaInference.Proofs.Json.Occurring

namespace SchemaInference.Json

/-- Strings, numbers and booleans are scalars. -/
def scalarKind? : Json → Option ScalarKind
  | string _ => some .string
  | number _ => some .float
  | boolean _ => some .boolean
  | _ => none

/-- In a steady document every key always holds an object, or all its values but null are scalars
of one kind. No member holds an array. -/
def Steady (document : Json) : Prop :=
  ∀ key, (∀ value, (key, value) ∈ document.occurring → value.isObject = true) ∨
    ∃ kind, ∀ value, (key, value) ∈ document.occurring →
      value = null ∨ value.scalarKind? = some kind

/-- In a settled document every key always holds an object or never does. No member holds an
array. -/
def Settled (document : Json) : Prop :=
  ∀ key, (∀ value, (key, value) ∈ document.occurring → value.isObject = true) ∨
    ∀ value, (key, value) ∈ document.occurring →
      value.isObject = false ∧ ∀ items, value ≠ array items

/-- A sample of a key is one of its values, or it stands for one that is not at hand. -/
def Sampled (document : Json) (key : String) (sample : Json) : Prop :=
  ∃ value, (key, value) ∈ document.occurring ∧
    (sample = value ∨ sample = if value.isObject then object [] else null)

variable {document : Json} {key : String}

theorem Steady.settled (steady : document.Steady) : document.Settled := by
  intro key
  refine (steady key).imp_right ?_
  rintro ⟨kind, scalars⟩ value inside
  rcases scalars value inside with rfl | scalar
  · exact ⟨rfl, by simp⟩
  · cases value with
    | string | number | boolean => exact ⟨rfl, by simp⟩
    | _ => cases scalar

theorem Settled.isObject_eq (settled : document.Settled) {first second : Json}
    (inside : (key, first) ∈ document.occurring) (other : (key, second) ∈ document.occurring) :
    first.isObject = second.isObject := by
  rcases settled key with objects | plain
  · rw [objects first inside, objects second other]
  · rw [(plain first inside).1, (plain second other).1]

theorem Settled.ne_array (settled : document.Settled) {items : List Json} :
    (key, array items) ∉ document.occurring := by
  intro inside
  rcases settled key with objects | plain
  · cases objects _ inside
  · exact (plain _ inside).2 items rfl

/-- The samples of a settled key have the shape of its values. -/
theorem Settled.isObject_sample (settled : document.Settled) {sample value : Json}
    (sampled : document.Sampled key sample) (inside : (key, value) ∈ document.occurring) :
    sample.isObject = value.isObject := by
  obtain ⟨other, occurs, rfl | rfl⟩ := sampled
  · exact settled.isObject_eq occurs inside
  · rw [← settled.isObject_eq occurs inside]
    cases other.isObject <;> rfl

theorem Settled.sample_ne_array (settled : document.Settled) {items : List Json} :
    ¬ document.Sampled key (array items) := by
  rintro ⟨value, occurs, rfl | same⟩
  · exact settled.ne_array occurs
  · split at same <;> cases same

/-- A scalar sample has the kind of every scalar value of its key. -/
theorem Steady.scalarKind?_sample (steady : document.Steady) {sample value : Json}
    {first second : ScalarKind} (sampled : document.Sampled key sample)
    (inside : (key, value) ∈ document.occurring) (ofSample : sample.scalarKind? = some first)
    (ofValue : value.scalarKind? = some second) : first = second := by
  have occurs : (key, sample) ∈ document.occurring := by
    obtain ⟨other, occurs, rfl | rfl⟩ := sampled
    · exact occurs
    · split at ofSample <;> cases ofSample
  rcases steady key with objects | ⟨kind, scalars⟩
  · have object := objects _ inside
    cases value <;> cases object
    cases ofValue
  · rcases scalars _ occurs with rfl | ofKind
    · cases ofSample
    rcases scalars _ inside with rfl | same
    · cases ofValue
    exact (Option.some.inj (ofSample.symm.trans ofKind)).trans
      (Option.some.inj (same.symm.trans ofValue))

/-- The samples of the members of a sampled object are samples of their keys. -/
theorem Sampled.of_member {name : String} {sample : Json} {members : List (String × Json)}
    (sampled : document.Sampled key (object members)) (inside : (name, sample) ∈ members) :
    document.Sampled name sample := by
  obtain ⟨value, occurs, rfl | same⟩ := sampled
  · exact ⟨sample, mem_occurring_member occurs inside, Or.inl rfl⟩
  · split at same
    · obtain rfl := object.inj same
      cases inside
    · cases same

end SchemaInference.Json
