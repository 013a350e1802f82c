/-
This file says what the unions hold after any number of documents.
-/

import SchemaInference.Proofs.Inference.Collected
import SchemaInference.Proofs.Json.Part

namespace SchemaInference

/-- Some object in one of the documents, at any depth, has a member with this key that is itself an
object with these members. -/
def Json.HoldObject (documents : List Json) (key : String) (members : List (String × Json)) :
    Prop :=
  ∃ document ∈ documents, ∃ outer, document.Part (.object outer) ∧ (key, .object members) ∈ outer

namespace Unions

open Json

/-- The documents are visited one after the other. -/
def visitAll (unions : Unions) (documents : List Json) : Unions :=
  documents.foldl visit unions

theorem visitAll_append (unions : Unions) (earlier later : List Json) :
    unions.visitAll (earlier ++ later) = (unions.visitAll earlier).visitAll later :=
  List.foldl_append

/-- Documents are visited as the items of an array are. -/
theorem visitAll_eq_visit (unions : Unions) (documents : List Json) :
    unions.visitAll documents = unions.visit (.array documents) := by
  rw [visit]
  induction documents generalizing unions with
  | nil => rfl
  | cons first rest inductionHypothesis => exact inductionHypothesis (unions.visit first)

/-- The unions record the documents when the buckets, their members and their flags are exactly
those that occur. -/
structure Records (unions : Unions) (documents : List Json) : Prop where
  contains_iff : ∀ key, unions.contains key = true ↔ ∃ members, HoldObject documents key members
  holds_iff : ∀ key name, unions.Holds key name ↔
    ∃ members, HoldObject documents key members ∧ name ∈ members.map Prod.fst
  isObject_iff : ∀ key name, unions.isObject key name = true ↔
    ∃ members value, HoldObject documents key members ∧ (name, value) ∈ members ∧ value.isObject

/-- What the documents hold occurs in the array of them. -/
theorem occurring_array_iff {documents : List Json} {key : String}
    {members : List (String × Json)} :
    (key, .object members) ∈ (array documents).occurring ↔ HoldObject documents key members := by
  rw [mem_occurring_iff_part]
  constructor
  · rintro ⟨outer, part, inside⟩
    obtain ⟨document, ⟨listed⟩, inner⟩ := part.cases_head.resolve_left nofun
    exact ⟨document, listed, outer, inner, inside⟩
  · rintro ⟨document, listed, outer, inner, inside⟩
    exact ⟨outer, .head (.item listed) inner, inside⟩

/-- The visits of some documents record them. -/
theorem records_visitAll (documents : List Json) :
    (empty.visitAll documents).Records documents := by
  rw [visitAll_eq_visit, ← collect]
  constructor
  case contains_iff => simp only [contains_collect_iff, occurring_array_iff, implies_true]
  case holds_iff => simp only [holds_collect_iff, occurring_array_iff, implies_true]
  case isObject_iff => simp only [isObject_collect_iff, occurring_array_iff, implies_true]

/-- A bucket is determined by its members and their flags. -/
theorem bucket_ext {first second : Dict Bool}
    (sameMembers : ∀ name, first.contains name = second.contains name)
    (sameFlags : ∀ name, flag first name = flag second name) : first = second := by
  refine Dict.ext_get? fun name => ?_
  have member := sameMembers name
  have flags := sameFlags name
  unfold Dict.contains at member
  unfold flag at flags
  cases own : first.get? name <;> cases other : second.get? name <;> simp_all

/-- Unions are determined by their buckets, the members of these and their flags. -/
theorem ext_queries {first second : Unions}
    (sameKeys : ∀ key, first.contains key = true ↔ second.contains key = true)
    (sameMembers : ∀ key name, first.Holds key name ↔ second.Holds key name)
    (sameFlags : ∀ key name, first.isObject key name = true ↔ second.isObject key name = true) :
    first = second := by
  suffices same : first.buckets = second.buckets from congrArg Unions.mk same
  refine Dict.ext_get? fun key => ?_
  have keys := sameKeys key
  have members := sameMembers key
  have flags := sameFlags key
  simp only [contains, Dict.contains, Holds, isObject, bucket?] at keys members flags
  cases own : first.buckets.get? key with
  | none => cases other : second.buckets.get? key <;> simp_all
  | some bucket =>
      cases other : second.buckets.get? key with
      | none => simp_all
      | some otherBucket =>
          simp only [own, other, Option.some.injEq, exists_eq_left'] at members flags
          rw [bucket_ext (fun name => Bool.eq_iff_iff.mpr (members name))
            fun name => Bool.eq_iff_iff.mpr (flags name)]

/-- Unions that record the same documents are equal. -/
theorem Records.eq_of_same {first second : Unions} {documents others : List Json}
    (records : first.Records documents) (otherRecords : second.Records others)
    (same : ∀ document, document ∈ documents ↔ document ∈ others) : first = second := by
  have objects : ∀ key members, HoldObject documents key members ↔
      HoldObject others key members := by
    simp only [HoldObject, same, implies_true]
  apply ext_queries
  · intro key
    simp only [records.contains_iff, otherRecords.contains_iff, objects]
  · intro key name
    simp only [records.holds_iff, otherRecords.holds_iff, objects]
  · intro key name
    simp only [records.isObject_iff, otherRecords.isObject_iff, objects]

/-- Later unions have every bucket, every member and every set flag of earlier ones. -/
structure Keeps (earlier later : Unions) : Prop where
  contains : ∀ key, earlier.contains key = true → later.contains key = true
  holds : ∀ key name, earlier.Holds key name → later.Holds key name
  isObject : ∀ key name, earlier.isObject key name = true → later.isObject key name = true

theorem keeps_visitAll (unions : Unions) (documents : List Json) :
    unions.Keeps (unions.visitAll documents) := by
  rw [visitAll_eq_visit]
  constructor
  case contains => exact fun key known => contains_visit_iff.mpr (Or.inl known)
  case holds => exact fun key name held => holds_visit_iff.mpr (Or.inl held)
  case isObject => exact fun key name flagged => isObject_visit_iff.mpr (Or.inl flagged)

/-- The unions of some documents record exactly what occurs in them. Neither the order of the
documents nor their repetition matters, and later documents take nothing away. -/
theorem visitAll_exact (documents : List Json) :
    (empty.visitAll documents).Records documents ∧
      (∀ others, (∀ document, document ∈ documents ↔ document ∈ others) →
        empty.visitAll others = empty.visitAll documents) ∧
      ∀ later, (empty.visitAll documents).Keeps (empty.visitAll (documents ++ later)) := by
  have records := records_visitAll documents
  refine ⟨records, fun others same => ?_, fun later => ?_⟩
  · exact ((records_visitAll others).eq_of_same records fun document => (same document).symm)
  · rw [visitAll_append]
    exact keeps_visitAll _ later

/-- The flag that the second document sets stays set, and the first document comes twice. -/
example :
    let unset := Json.object [("meta", .object [("owner", .string "x")])]
    let set := Json.array [.object [("meta", .object [("owner", .object [])])]]
    ((collect unset).visitAll [set, unset]).isObject "meta" "owner" = true ∧
      (collect unset).visitAll [set, unset] = (collect set).visitAll [unset] := by
  decide

end Unions

end SchemaInference
