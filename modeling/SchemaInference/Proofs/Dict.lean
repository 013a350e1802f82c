/-
This file compares entries with the same entries in ascending order.
-/

import Mathlib.Data.List.Induction
import SchemaInference.Dict

namespace SchemaInference

namespace Entries

variable {α : Type}

theorem insert_of_above {key : String} {value : α} {entries : List (String × α)}
    (above : ∀ entry ∈ entries, entry.1 < key) :
    insert key value entries = entries ++ [(key, value)] := by
  induction entries with
  | nil => rfl
  | cons head rest inductionHypothesis =>
      have below : head.1 < key := above head List.mem_cons_self
      have apart : key ≠ head.1 := fun same => String.lt_irrefl key (same ▸ below)
      rw [insert, if_neg (String.lt_asymm below), if_neg apart,
        inductionHypothesis fun entry inside => above entry (List.mem_cons_of_mem _ inside)]
      rfl

/-- Ascending entries are sorted already. -/
theorem ofList_eq_self {entries : List (String × α)} (ascending : Ascending entries) :
    ofList entries = entries := by
  induction entries using List.reverseRecOn with
  | nil => rfl
  | append_singleton first last inductionHypothesis =>
      obtain ⟨before, _, below⟩ := List.pairwise_append.mp ascending
      rw [ofList, List.foldl_append, ← ofList, inductionHypothesis before]
      exact insert_of_above fun entry inside => below entry inside last List.mem_cons_self

/-- The last entry of a key stays. -/
theorem lookup_ofList (key : String) (entries : List (String × α)) :
    (ofList entries).lookup key = entries.reverse.lookup key := by
  induction entries using List.reverseRecOn with
  | nil => rfl
  | append_singleton first last inductionHypothesis =>
      rw [ofList, List.foldl_append, ← ofList, List.reverse_append, List.lookup_append,
        ← inductionHypothesis]
      show (insert last.1 last.2 (ofList first)).lookup key =
        ([last].lookup key).or ((ofList first).lookup key)
      by_cases same : key = last.1
      · subst same
        rw [lookup_insert_self, lookup_head, Option.some_or]
      · rw [lookup_insert_of_ne same, List.lookup_cons, beq_false_of_ne same, List.lookup_nil,
          Option.none_or]

/-- Ascending entries hold each key once, so their order does not matter. -/
theorem lookup_reverse {key : String} {entries : List (String × α)}
    (ascending : Ascending entries) : entries.reverse.lookup key = entries.lookup key := by
  rw [← lookup_ofList, ofList_eq_self ascending]

theorem lookup_map_values {β : Type} (change : String → α → β) (key : String)
    (entries : List (String × α)) :
    (entries.map fun entry => (entry.1, change entry.1 entry.2)).lookup key =
      (entries.lookup key).map (change key) := by
  induction entries with
  | nil => rfl
  | cons head rest inductionHypothesis =>
      rw [List.map_cons, List.lookup_cons, List.lookup_cons, inductionHypothesis]
      by_cases same : key = head.1
      · subst same
        simp
      · simp [beq_false_of_ne same]

/-- A new key adds an entry. -/
theorem insert_perm {key : String} {value : α} {entries : List (String × α)}
    (fresh : key ∉ entries.map Prod.fst) :
    (insert key value entries).Perm ((key, value) :: entries) := by
  induction entries with
  | nil => exact .refl _
  | cons head rest inductionHypothesis =>
      rw [List.map_cons, List.mem_cons, not_or] at fresh
      rw [insert, if_neg fresh.1]
      split
      · exact .refl _
      · exact ((inductionHypothesis fresh.2).cons head).trans (.swap ..)

/-- Entries with distinct keys are only put into another order. -/
theorem ofList_perm {entries : List (String × α)} (distinct : (entries.map Prod.fst).Nodup) :
    (ofList entries).Perm entries := by
  induction entries using List.reverseRecOn with
  | nil => exact .refl _
  | append_singleton first last inductionHypothesis =>
      rw [List.map_append, List.nodup_append] at distinct
      obtain ⟨before, _, apart⟩ := distinct
      have fresh : last.1 ∉ (ofList first).map Prod.fst := by
        rw [mem_keys_ofList]
        exact fun inside => apart _ inside _ List.mem_cons_self rfl
      rw [ofList, List.foldl_append, ← ofList]
      calc (insert last.1 last.2 (ofList first)).Perm (last :: ofList first) := insert_perm fresh
        _ |>.Perm (last :: first) := (inductionHypothesis before).cons last
        _ |>.Perm (first ++ [last]) := (List.perm_append_singleton last first).symm

end Entries

theorem Dict.nodup_keys {α : Type} (dict : Dict α) : dict.keys.Nodup :=
  List.pairwise_map.mpr (dict.ascending.imp String.ne_of_lt)

end SchemaInference
