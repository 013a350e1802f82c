/-
This file keeps values under string keys in ascending key order. Two dictionaries with the same
lookups are equal.
-/

namespace SchemaInference

namespace Entries

variable {α : Type}

def Ascending (entries : List (String × α)) : Prop :=
  entries.Pairwise fun first second => first.1 < second.1

/-- A value put under a key that is present replaces the old value. -/
def insert (key : String) (value : α) : List (String × α) → List (String × α)
  | [] => [(key, value)]
  | entry :: rest =>
      if key < entry.1 then (key, value) :: entry :: rest
      else if key = entry.1 then (key, value) :: rest
      else entry :: insert key value rest

/-- The last of several values with one key stays. -/
def ofList (entries : List (String × α)) : List (String × α) :=
  entries.foldl (fun sorted entry => insert entry.1 entry.2 sorted) []

theorem lt_of_not_lt_of_ne {first second : String} (notBelow : ¬ first < second)
    (different : first ≠ second) : second < first := by
  rcases String.le_total first second with below | above
  · exact absurd (String.le_antisymm below (String.not_lt.mp notBelow)) different
  · exact String.not_le.mp fun below => different (String.le_antisymm below above)

theorem mem_insert {key : String} {value : α} {entries : List (String × α)}
    {entry : String × α} (member : entry ∈ insert key value entries) :
    entry = (key, value) ∨ entry ∈ entries := by
  induction entries with
  | nil => simpa [insert] using member
  | cons head rest inductionHypothesis =>
      rw [insert] at member
      split at member
      · simpa using member
      · split at member
        · simp only [List.mem_cons] at member ⊢
          exact member.imp id Or.inr
        · simp only [List.mem_cons] at member ⊢
          rcases member with same | inside
          · exact Or.inr (Or.inl same)
          · exact (inductionHypothesis inside).imp id Or.inr

theorem ascending_insert (key : String) (value : α) {entries : List (String × α)}
    (ascending : Ascending entries) : Ascending (insert key value entries) := by
  induction entries with
  | nil => simp [insert, Ascending]
  | cons head rest inductionHypothesis =>
      obtain ⟨above, tail⟩ := List.pairwise_cons.mp ascending
      rw [insert]
      split
      · next below =>
          refine List.pairwise_cons.mpr ⟨fun entry member => ?_, ascending⟩
          rcases List.mem_cons.mp member with rfl | inside
          · exact below
          · exact String.lt_trans below (above entry inside)
      · next notBelow =>
          split
          · next same => subst same; exact List.pairwise_cons.mpr ⟨above, tail⟩
          · next different =>
              refine List.pairwise_cons.mpr ⟨fun entry member => ?_, inductionHypothesis tail⟩
              rcases mem_insert member with rfl | inside
              · exact lt_of_not_lt_of_ne notBelow different
              · exact above entry inside

theorem ascending_ofList (entries : List (String × α)) : Ascending (ofList entries) := by
  have fold : ∀ (sorted : List (String × α)), Ascending sorted →
      Ascending (entries.foldl (fun sorted entry => insert entry.1 entry.2 sorted) sorted) := by
    induction entries with
    | nil => exact fun _ ascending => ascending
    | cons entry rest inductionHypothesis =>
        exact fun _ ascending => inductionHypothesis _ (ascending_insert _ _ ascending)
  exact fold [] List.Pairwise.nil

theorem lookup_insert_self (key : String) (value : α) (entries : List (String × α)) :
    (insert key value entries).lookup key = some value := by
  induction entries with
  | nil => simp [insert]
  | cons head rest inductionHypothesis =>
      rw [insert]
      split
      · simp
      · split
        · simp
        · next different =>
            rw [List.lookup_cons, beq_false_of_ne different]
            exact inductionHypothesis

theorem lookup_insert_of_ne {key other : String} (different : other ≠ key) (value : α)
    (entries : List (String × α)) :
    (insert key value entries).lookup other = entries.lookup other := by
  induction entries with
  | nil => simp [insert, List.lookup_cons, beq_false_of_ne different]
  | cons head rest inductionHypothesis =>
      rw [insert]
      split
      · rw [List.lookup_cons, beq_false_of_ne different]
      · split
        · next same =>
            subst same
            rw [List.lookup_cons, List.lookup_cons, beq_false_of_ne different]
        · rw [List.lookup_cons, List.lookup_cons, inductionHypothesis]

theorem lookup_head (head : String × α) (rest : List (String × α)) :
    (head :: rest).lookup head.1 = some head.2 := by
  rw [List.lookup_cons, beq_self_eq_true]

theorem lookup_eq_none_of_lt {key : String} {entries : List (String × α)}
    (below : ∀ entry ∈ entries, key < entry.1) : entries.lookup key = none := by
  induction entries with
  | nil => rfl
  | cons head rest inductionHypothesis =>
      have apart : key ≠ head.1 := fun same =>
        String.lt_irrefl key (same ▸ below head (List.mem_cons_self))
      rw [List.lookup_cons, beq_false_of_ne apart]
      exact inductionHypothesis fun entry inside => below entry (List.mem_cons_of_mem _ inside)

/-- Lookups determine ascending entries. -/
theorem eq_of_lookup_eq {first second : List (String × α)} (firstAscending : Ascending first)
    (secondAscending : Ascending second)
    (same : ∀ key, first.lookup key = second.lookup key) : first = second := by
  induction first generalizing second with
  | nil =>
      cases second with
      | nil => rfl
      | cons head rest => simpa [lookup_head] using same head.1
  | cons head rest inductionHypothesis =>
      obtain ⟨above, tail⟩ := List.pairwise_cons.mp firstAscending
      cases second with
      | nil => simpa [lookup_head] using same head.1
      | cons other others =>
          obtain ⟨otherAbove, otherTail⟩ := List.pairwise_cons.mp secondAscending
          have keys : head.1 = other.1 := by
            rcases Decidable.em (head.1 < other.1) with below | notBelow
            · have absent : (other :: others).lookup head.1 = none := by
                apply lookup_eq_none_of_lt
                intro entry member
                rcases List.mem_cons.mp member with rfl | inside
                · exact below
                · exact String.lt_trans below (otherAbove entry inside)
              have present := same head.1
              simp [absent, lookup_head] at present
            · rcases Decidable.em (head.1 = other.1) with equal | different
              · exact equal
              · have below := lt_of_not_lt_of_ne notBelow different
                have absent : (head :: rest).lookup other.1 = none := by
                  apply lookup_eq_none_of_lt
                  intro entry member
                  rcases List.mem_cons.mp member with rfl | inside
                  · exact below
                  · exact String.lt_trans below (above entry inside)
                have present := same other.1
                simp [absent, lookup_head] at present
          have heads : head = other := by
            have values := same head.1
            rw [lookup_head, keys, lookup_head] at values
            exact Prod.ext keys (Option.some.inj values)
          subst heads
          congr 1
          apply inductionHypothesis tail otherTail
          intro key
          rcases Decidable.em (key = head.1) with equal | different
          · rw [equal, lookup_eq_none_of_lt above, lookup_eq_none_of_lt otherAbove]
          · have tails := same key
            rw [List.lookup_cons, List.lookup_cons, beq_false_of_ne different] at tails
            exact tails

theorem mem_keys_insert {key other : String} {value : α} {entries : List (String × α)} :
    other ∈ (insert key value entries).map Prod.fst ↔
      other = key ∨ other ∈ entries.map Prod.fst := by
  induction entries with
  | nil => simp [insert]
  | cons head rest inductionHypothesis =>
      rw [insert]
      split
      · simp
      · split
        · next same => simp [same]
        · rw [List.map_cons, List.mem_cons, inductionHypothesis, List.map_cons, List.mem_cons]
          exact or_left_comm

theorem mem_keys_ofList {key : String} {entries : List (String × α)} :
    key ∈ (ofList entries).map Prod.fst ↔ key ∈ entries.map Prod.fst := by
  have fold : ∀ sorted : List (String × α),
      key ∈ (entries.foldl (fun sorted entry => insert entry.1 entry.2 sorted) sorted).map Prod.fst ↔
        key ∈ sorted.map Prod.fst ∨ key ∈ entries.map Prod.fst := by
    induction entries with
    | nil => simp
    | cons entry rest inductionHypothesis =>
        intro sorted
        rw [List.foldl_cons, inductionHypothesis, mem_keys_insert, List.map_cons, List.mem_cons,
          or_assoc, or_left_comm]
  exact (fold []).trans (or_iff_right List.not_mem_nil)

theorem lookup_isSome_iff_mem_keys {key : String} {entries : List (String × α)} :
    (entries.lookup key).isSome ↔ key ∈ entries.map Prod.fst := by
  rw [List.lookup_isSome_iff, List.mem_map]
  exact exists_congr fun entry => and_congr_right fun _ => beq_iff_eq.trans eq_comm

theorem mem_of_lookup {key : String} {value : α} {entries : List (String × α)}
    (found : entries.lookup key = some value) : (key, value) ∈ entries := by
  obtain ⟨before, after, split, _⟩ := List.lookup_eq_some_iff.mp found
  simp [split]

/-- Ascending entries hold one value for each key. -/
theorem Ascending.lookup_of_mem {key : String} {value : α} {entries : List (String × α)}
    (ascending : Ascending entries) (member : (key, value) ∈ entries) :
    entries.lookup key = some value := by
  induction entries with
  | nil => simp at member
  | cons head rest inductionHypothesis =>
      obtain ⟨above, tail⟩ := List.pairwise_cons.mp ascending
      rcases List.mem_cons.mp member with rfl | inside
      · exact lookup_head (key, value) rest
      · have apart : key ≠ head.1 := fun same =>
          String.lt_irrefl key (same ▸ above (key, value) inside)
        rw [List.lookup_cons, beq_false_of_ne apart]
        exact inductionHypothesis tail inside

end Entries

/-- A dictionary stores each key once. -/
structure Dict (α : Type) where
  entries : List (String × α)
  ascending : Entries.Ascending entries

namespace Dict

variable {α β : Type}

instance [DecidableEq α] : DecidableEq (Dict α) := fun first second =>
  decidable_of_iff (first.entries = second.entries) (by
    cases first
    cases second
    simp)

def empty : Dict α :=
  ⟨[], List.Pairwise.nil⟩

def get? (dict : Dict α) (key : String) : Option α :=
  dict.entries.lookup key

def insert (dict : Dict α) (key : String) (value : α) : Dict α :=
  ⟨Entries.insert key value dict.entries, Entries.ascending_insert key value dict.ascending⟩

def ofList (entries : List (String × α)) : Dict α :=
  ⟨Entries.ofList entries, Entries.ascending_ofList entries⟩

def contains (dict : Dict α) (key : String) : Bool :=
  (dict.get? key).isSome

def keys (dict : Dict α) : List String :=
  dict.entries.map Prod.fst

def values (dict : Dict α) : List α :=
  dict.entries.map Prod.snd

def size (dict : Dict α) : Nat :=
  dict.entries.length

def isEmpty (dict : Dict α) : Bool :=
  dict.entries.isEmpty

theorem ext_get? {first second : Dict α} (same : ∀ key, first.get? key = second.get? key) :
    first = second := by
  obtain ⟨firstEntries, firstAscending⟩ := first
  obtain ⟨secondEntries, secondAscending⟩ := second
  have entries := Entries.eq_of_lookup_eq firstAscending secondAscending same
  subst entries
  rfl

@[simp] theorem get?_empty (key : String) : (empty : Dict α).get? key = none := rfl

@[simp] theorem get?_insert_self (dict : Dict α) (key : String) (value : α) :
    (dict.insert key value).get? key = some value :=
  Entries.lookup_insert_self key value dict.entries

theorem get?_insert_of_ne (dict : Dict α) {key other : String} (different : other ≠ key)
    (value : α) : (dict.insert key value).get? other = dict.get? other :=
  Entries.lookup_insert_of_ne different value dict.entries

theorem get?_insert (dict : Dict α) (key other : String) (value : α) :
    (dict.insert key value).get? other = if other = key then some value else dict.get? other := by
  split
  · next same => rw [same, get?_insert_self]
  · next different => exact get?_insert_of_ne dict different value

theorem contains_iff_mem_keys {dict : Dict α} {key : String} :
    dict.contains key = true ↔ key ∈ dict.keys :=
  Entries.lookup_isSome_iff_mem_keys

theorem mem_values_iff {dict : Dict α} {value : α} :
    value ∈ dict.values ↔ ∃ key, dict.get? key = some value := by
  constructor
  · intro member
    obtain ⟨⟨key, _⟩, inside, rfl⟩ := List.mem_map.mp member
    exact ⟨key, dict.ascending.lookup_of_mem inside⟩
  · rintro ⟨key, found⟩
    exact List.mem_map.mpr ⟨(key, value), Entries.mem_of_lookup found, rfl⟩

theorem isEmpty_iff_get? {dict : Dict α} :
    dict.isEmpty = true ↔ ∀ key, dict.get? key = none := by
  constructor
  · intro empty key
    rw [get?, List.isEmpty_iff.mp empty, List.lookup_nil]
  · intro absent
    have same : dict = empty := ext_get? absent
    rw [same]
    rfl

end Dict

end SchemaInference
