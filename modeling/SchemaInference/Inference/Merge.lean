/-
This file merges sample objects into one that has the members of all of them.
-/

import SchemaInference.Json.Value

namespace SchemaInference

namespace Json

/-- The values that the samples hold under a key. -/
def occurrences (key : String) (samples : List (List (String × Json))) : List Json :=
  samples.filterMap (·.lookup key)

/-- The sizes of the items are added without the size of the list that holds them. -/
noncomputable def totalSize {α : Type} [SizeOf α] : List α → Nat
  | [] => 0
  | item :: rest => sizeOf item + totalSize rest

theorem sizeOf_lookup {key : String} {members : List (String × Json)} {value : Json}
    (found : members.lookup key = some value) : sizeOf value < sizeOf members := by
  induction members with
  | nil => simp at found
  | cons head rest inductionHypothesis =>
      obtain ⟨name, first⟩ := head
      rw [List.lookup_cons] at found
      split at found
      · simp only [Option.some.injEq] at found
        subst found
        simp only [List.cons.sizeOf_spec, Prod.mk.sizeOf_spec]
        omega
      · have smaller := inductionHypothesis found
        simp only [List.cons.sizeOf_spec]
        omega

theorem sizeOf_occurrences (key : String) (samples : List (List (String × Json))) :
    totalSize (occurrences key samples) + (occurrences key samples).length ≤
      totalSize samples := by
  induction samples with
  | nil => simp [occurrences, totalSize]
  | cons sample rest inductionHypothesis =>
      unfold occurrences at inductionHypothesis ⊢
      rw [List.filterMap_cons]
      split
      · simp only [totalSize]
        omega
      · next value found =>
          have smaller := sizeOf_lookup found
          simp only [totalSize, List.length_cons]
          omega

theorem totalSize_le_of_members {values : List Json} {objects : List (List (String × Json))}
    (all : values.mapM members? = some objects) :
    totalSize objects ≤ totalSize values := by
  induction values generalizing objects with
  | nil => simp_all [totalSize]
  | cons value rest inductionHypothesis =>
      rw [List.mapM_cons, Option.bind_eq_bind, Option.bind_eq_some_iff] at all
      obtain ⟨members, first, all⟩ := all
      rw [Option.bind_eq_bind, Option.bind_eq_some_iff] at all
      obtain ⟨others, tail, all⟩ := all
      obtain rfl : members :: others = objects := Option.some.inj all
      have bound := inductionHypothesis tail
      cases value with
      | object inner =>
          obtain rfl : inner = members := Option.some.inj first
          simp only [totalSize, Json.object.sizeOf_spec] at bound ⊢
          omega
      | _ => simp [members?] at first

/-- A key that one sample has keeps its value. A key whose values are all objects has them merged.
Otherwise the last value counts. -/
def merge (samples : List (List (String × Json))) : List (String × Json) :=
  (Entries.ofList samples.flatten).map fun (key, last) =>
    match _occurring : occurrences key samples with
    | [] => (key, last)
    | [single] => (key, single)
    | first :: second :: rest =>
        match _nested : (first :: second :: rest).mapM members? with
        | some objects => (key, object (merge objects))
        | none => (key, last)
termination_by totalSize samples
decreasing_by
  have inside := sizeOf_occurrences key samples
  have bound := totalSize_le_of_members _nested
  rw [_occurring] at inside
  simp only [List.length_cons] at inside
  omega

end Json

end SchemaInference
