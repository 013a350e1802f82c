/-
This file says what the unions hold after a document has been visited.
-/

import SchemaInference.Inference.Unions
import SchemaInference.Proofs.Json.Occurring

namespace SchemaInference.Unions

open Json

/-- One occurring member is recorded when its value is an object. -/
def recordMember (unions : Unions) (member : String × Json) : Unions :=
  unions.recordValue member.1 member.2

mutual

/-- A visit records the occurring members in their order. -/
theorem visit_eq_foldl : (value : Json) → (unions : Unions) →
    unions.visit value = value.occurring.foldl recordMember unions
  | .array items, unions => visitItems_eq_foldl items unions
  | .object members, unions => visitMembers_eq_foldl members unions
  | .null, _ => rfl
  | .boolean _, _ => rfl
  | .number _, _ => rfl
  | .string _, _ => rfl

theorem visitItems_eq_foldl : (items : List Json) → (unions : Unions) →
    unions.visitItems items = (occurringItems items).foldl recordMember unions
  | [], _ => rfl
  | item :: rest, unions => by
      rw [visitItems, visit_eq_foldl item, visitItems_eq_foldl rest, occurringItems,
        List.foldl_append]

theorem visitMembers_eq_foldl : (members : List (String × Json)) → (unions : Unions) →
    unions.visitMembers members = (occurringMembers members).foldl recordMember unions
  | [], _ => rfl
  | (key, value) :: rest, unions => by
      rw [visitMembers, visit_eq_foldl value, visitMembers_eq_foldl rest, occurringMembers,
        List.foldl_cons, List.foldl_append]
      rfl

end

/-- The bucket of the key holds the member. -/
def Holds (unions : Unions) (key member : String) : Prop :=
  ∃ bucket, unions.bucket? key = some bucket ∧ bucket.contains member = true

theorem flag_foldl_note {members : List (String × Json)} {bucket : Dict Bool} {member : String} :
    flag (members.foldl note bucket) member = true ↔
      flag bucket member = true ∨ ∃ value, (member, value) ∈ members ∧ value.isObject := by
  induction members generalizing bucket with
  | nil => simp
  | cons head rest inductionHypothesis =>
      obtain ⟨name, value⟩ := head
      rw [List.foldl_cons, inductionHypothesis]
      by_cases same : member = name
      · subst same
        simp [note, flag, or_and_right, exists_or, or_assoc]
      · simp [note, flag, Dict.get?_insert_of_ne _ same, same]

theorem contains_foldl_note {members : List (String × Json)} {bucket : Dict Bool}
    {member : String} :
    (members.foldl note bucket).contains member = true ↔
      bucket.contains member = true ∨ member ∈ members.map Prod.fst := by
  induction members generalizing bucket with
  | nil => simp
  | cons head rest inductionHypothesis =>
      rw [List.foldl_cons, inductionHypothesis, List.map_cons, List.mem_cons]
      by_cases same : member = head.1
      · simp [note, Dict.contains, same]
      · simp [note, Dict.contains, Dict.get?_insert_of_ne _ same, same]

theorem bucket?_record_self (unions : Unions) (key : String) (members : List (String × Json)) :
    (unions.record key members).bucket? key =
      some (members.foldl note ((unions.bucket? key).getD .empty)) :=
  Dict.get?_insert_self _ _ _

theorem bucket?_record_of_ne (unions : Unions) {key other : String} (different : other ≠ key)
    (members : List (String × Json)) :
    (unions.record key members).bucket? other = unions.bucket? other :=
  Dict.get?_insert_of_ne _ different _

theorem holds_record_self {unions : Unions} {key member : String}
    {members : List (String × Json)} :
    (unions.record key members).Holds key member ↔
      unions.Holds key member ∨ member ∈ members.map Prod.fst := by
  simp only [Holds, bucket?_record_self, Option.some.injEq, exists_eq_left', contains_foldl_note]
  cases unions.bucket? key <;> simp [Dict.contains]

theorem isObject_record_self {unions : Unions} {key member : String}
    {members : List (String × Json)} :
    (unions.record key members).isObject key member = true ↔
      unions.isObject key member = true ∨ ∃ value, (member, value) ∈ members ∧ value.isObject := by
  simp only [isObject, bucket?_record_self, flag_foldl_note]
  cases unions.bucket? key <;> simp [flag]

/-- A recorded object gives its key a bucket. -/
theorem contains_recordMember {unions : Unions} {entry : String × Json} {key : String} :
    (unions.recordMember entry).contains key = true ↔
      unions.contains key = true ∨ ∃ members, entry = (key, .object members) := by
  obtain ⟨name, value⟩ := entry
  cases value with
  | object members =>
      by_cases same : key = name
      · subst same
        simp [recordMember, recordValue, record, contains, Dict.contains]
      · simp [recordMember, recordValue, record, contains, Dict.contains,
          Dict.get?_insert_of_ne _ same, Ne.symm same]
  | _ => simp [recordMember, recordValue]

/-- A recorded member adds its own members to the bucket of its key. -/
theorem holds_recordMember {unions : Unions} {entry : String × Json} {key member : String} :
    (unions.recordMember entry).Holds key member ↔
      unions.Holds key member ∨
        ∃ members, entry = (key, .object members) ∧ member ∈ members.map Prod.fst := by
  obtain ⟨name, value⟩ := entry
  cases value with
  | object members =>
      by_cases same : key = name
      · subst same
        simp [recordMember, recordValue, holds_record_self]
      · simp [recordMember, recordValue, Holds, bucket?_record_of_ne unions same, Ne.symm same]
  | _ => simp [recordMember, recordValue]

theorem isObject_recordMember {unions : Unions} {entry : String × Json} {key member : String} :
    (unions.recordMember entry).isObject key member = true ↔
      unions.isObject key member = true ∨
        ∃ members value, entry = (key, .object members) ∧ (member, value) ∈ members ∧
          value.isObject := by
  obtain ⟨name, value⟩ := entry
  cases value with
  | object members =>
      by_cases same : key = name
      · subst same
        simp [recordMember, recordValue, isObject_record_self]
      · simp [recordMember, recordValue, isObject, bucket?_record_of_ne unions same,
          Ne.symm same]
  | _ => simp [recordMember, recordValue]

/-- After a visit a key has a bucket when it had one before or holds an object in the value. -/
theorem contains_visit_iff {unions : Unions} {document : Json} {key : String} :
    (unions.visit document).contains key = true ↔
      unions.contains key = true ∨ ∃ members, (key, .object members) ∈ document.occurring := by
  rw [visit_eq_foldl]
  induction document.occurring generalizing unions with
  | nil => simp
  | cons entry rest inductionHypothesis =>
      rw [List.foldl_cons, inductionHypothesis, contains_recordMember]
      simp only [List.mem_cons, exists_or, or_assoc, eq_comm]

/-- After a visit a bucket holds what it held before and what occurs in the value. -/
theorem holds_visit_iff {unions : Unions} {document : Json} {key member : String} :
    (unions.visit document).Holds key member ↔
      unions.Holds key member ∨
        ∃ members, (key, .object members) ∈ document.occurring ∧ member ∈ members.map Prod.fst := by
  rw [visit_eq_foldl]
  induction document.occurring generalizing unions with
  | nil => simp
  | cons entry rest inductionHypothesis =>
      rw [List.foldl_cons, inductionHypothesis, holds_recordMember]
      simp only [List.mem_cons, or_and_right, exists_or, or_assoc, eq_comm]

/-- After a visit a flag is set when it was set before or the member occurs as an object. -/
theorem isObject_visit_iff {unions : Unions} {document : Json} {key member : String} :
    (unions.visit document).isObject key member = true ↔
      unions.isObject key member = true ∨
        ∃ members value, (key, .object members) ∈ document.occurring ∧
          (member, value) ∈ members ∧ value.isObject := by
  rw [visit_eq_foldl]
  induction document.occurring generalizing unions with
  | nil => simp
  | cons entry rest inductionHypothesis =>
      rw [List.foldl_cons, inductionHypothesis, isObject_recordMember]
      simp only [List.mem_cons, or_and_right, exists_or, or_assoc, eq_comm]

theorem contains_collect_iff {document : Json} {key : String} :
    (collect document).contains key = true ↔
      ∃ members, (key, .object members) ∈ document.occurring := by
  rw [collect, contains_visit_iff]
  simp [contains, Dict.contains, empty]

theorem holds_collect_iff {document : Json} {key member : String} :
    (collect document).Holds key member ↔
      ∃ members, (key, .object members) ∈ document.occurring ∧ member ∈ members.map Prod.fst := by
  rw [collect, holds_visit_iff]
  simp [Holds, bucket?, empty]

theorem isObject_collect_iff {document : Json} {key member : String} :
    (collect document).isObject key member = true ↔
      ∃ members value, (key, .object members) ∈ document.occurring ∧
        (member, value) ∈ members ∧ value.isObject := by
  rw [collect, isObject_visit_iff]
  simp [isObject, bucket?, empty]

end SchemaInference.Unions
