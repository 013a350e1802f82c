/-
This file says which sample decides the value of a merge at a path of member names.
-/

import SchemaInference.Proofs.Json.Merged
import SchemaInference.Proofs.Resolved

namespace SchemaInference.Json

/-- The value at a path of member names inside an object. -/
def valueAt? (path : List String) (members : List (String × Json)) : Option Json :=
  (object members).at? (path.map .field)

/-- The values that the samples have at a path. -/
def valuesAt (path : List String) (samples : List (List (String × Json))) : List Json :=
  samples.filterMap (valueAt? path)

/-- The last sample that has a value at a path. -/
def lastWith? (path : List String) (samples : List (List (String × Json))) :
    Option (List (String × Json)) :=
  (samples.filter fun sample => (valueAt? path sample).isSome).getLast?

/-- Some sample has another value than an object at the path. -/
def HoldPlain (samples : List (List (String × Json))) (path : List String) : Prop :=
  ∃ value ∈ valuesAt path samples, value.isObject = false

/-- The shortest part of a path at which some sample has another value than an object. It is neither
empty nor the whole path. -/
structure FirstPlain (samples : List (List (String × Json))) (path part : List String) : Prop where
  nonempty : part ≠ []
  proper : ∃ rest, rest ≠ [] ∧ path = part ++ rest
  plain : HoldPlain samples part
  shortest : ∀ shorter, shorter ≠ [] → shorter <+: part → HoldPlain samples shorter →
    shorter = part

section Path

variable {samples objects : List (List (String × Json))} {name : String} {rest part : List String}

theorem valueAt?_cons (name : String) (rest : List String) (members : List (String × Json)) :
    valueAt? (name :: rest) members = (members.lookup name).bind (·.at? (rest.map .field)) := rfl

theorem valueAt?_append (part rest : List String) (members : List (String × Json)) :
    valueAt? (part ++ rest) members = (valueAt? part members).bind (·.at? (rest.map .field)) := by
  rw [valueAt?, List.map_append, at?, List.foldlM_append]
  rfl

theorem valuesAt_cons (name : String) (rest : List String)
    (samples : List (List (String × Json))) :
    valuesAt (name :: rest) samples =
      (occurrences name samples).filterMap (·.at? (rest.map .field)) := by
  rw [occurrences, List.filterMap_filterMap]
  rfl

/-- Inside a key that holds only objects, the samples have what its objects have. -/
theorem valuesAt_cons_of_objects (occurring : occurrences name samples = objects.map object)
    (rest : List String) : valuesAt (name :: rest) samples = valuesAt rest objects := by
  rw [valuesAt_cons, occurring, List.filterMap_map]
  rfl

theorem valuesAt_singleton (name : String) (samples : List (List (String × Json))) :
    valuesAt [name] samples = occurrences name samples := by
  rw [valuesAt_cons]
  exact List.filterMap_some

theorem valuesAt_ne_nil_iff {path : List String} :
    valuesAt path samples ≠ [] ↔ ∃ sample ∈ samples, (valueAt? path sample).isSome := by
  simp [valuesAt, Option.isSome_iff_ne_none]

/-- The last value at a path is that of the last sample that has one. -/
theorem getLast?_valuesAt (path : List String) (samples : List (List (String × Json))) :
    (valuesAt path samples).getLast? = (lastWith? path samples).bind (valueAt? path) := by
  rw [valuesAt, lastWith?, List.getLast?_filterMap, List.getLast?_filter]
  induction samples.reverse with
  | nil => rfl
  | cons sample rest inductionHypothesis =>
      rw [List.findSome?_cons, List.find?_cons]
      cases found : valueAt? path sample with
      | none => exact inductionHypothesis
      | some value => exact found.symm

theorem exists_eq_map_object {values : List Json}
    (all : ∀ value ∈ values, value.isObject = true) :
    ∃ objects : List (List (String × Json)), values = objects.map object := by
  induction values with
  | nil => exact ⟨[], rfl⟩
  | cons value rest inductionHypothesis =>
      rw [List.forall_mem_cons] at all
      obtain ⟨objects, rfl⟩ := inductionHypothesis all.2
      cases value with
      | object members => exact ⟨members :: objects, rfl⟩
      | _ => cases all.1

theorem not_holdPlain_of_objects (occurring : occurrences name samples = objects.map object) :
    ¬ HoldPlain samples [name] := by
  rintro ⟨value, inside, plain⟩
  rw [valuesAt_singleton, occurring] at inside
  obtain ⟨members, _, rfl⟩ := List.mem_map.mp inside
  cases plain

/-- A key of a merge holds the merge of its objects, or the last of its values when some of them is
plain. -/
theorem lookup_merge_cases (canonical : CanonicalSamples samples) (name : String) :
    (∃ objects, objects ≠ [] ∧ occurrences name samples = objects.map object ∧
      (merge samples).lookup name = some (object (merge objects))) ∨
      (merge samples).lookup name = (occurrences name samples).getLast? ∧
        (occurrences name samples ≠ [] → HoldPlain samples [name]) := by
  by_cases all : ∃ objects, objects ≠ [] ∧ occurrences name samples = objects.map object
  · obtain ⟨objects, nonempty, occurring⟩ := all
    exact Or.inl ⟨objects, nonempty, occurring,
      lookup_merge_of_objects canonical nonempty occurring⟩
  · have mixed : ∀ objects : List (List (String × Json)), objects ≠ [] →
        occurrences name samples ≠ objects.map object := fun objects nonempty occurring =>
      all ⟨objects, nonempty, occurring⟩
    refine Or.inr ⟨lookup_merge_of_mixed canonical mixed, fun present => ?_⟩
    by_contra none
    obtain ⟨objects, occurring⟩ := exists_eq_map_object fun value inside =>
      eq_true_of_ne_false fun plain =>
        none ⟨value, (valuesAt_singleton name samples).symm ▸ inside, plain⟩
    refine mixed objects ?_ occurring
    rintro rfl
    exact present occurring

/-- A plain value of the first key comes first. -/
theorem FirstPlain.eq_singleton (first : FirstPlain samples (name :: rest) part)
    (plain : HoldPlain samples [name]) : part = [name] := by
  obtain ⟨others, _, same⟩ := first.proper
  obtain ⟨head, tail, rfl⟩ := List.exists_cons_of_ne_nil first.nonempty
  obtain ⟨rfl, _⟩ := List.cons.inj same
  exact (first.shortest [name] (List.cons_ne_nil _ _) (List.prefix_append [name] tail) plain).symm

theorem firstPlain_singleton (nonempty : rest ≠ []) (plain : HoldPlain samples [name]) :
    FirstPlain samples (name :: rest) [name] where
  nonempty := List.cons_ne_nil _ _
  proper := ⟨rest, nonempty, rfl⟩
  plain := plain
  shortest := by
    intro shorter present beginning _
    obtain ⟨tail, rfl, nothing⟩ := (List.prefix_cons_iff.mp beginning).resolve_left present
    rw [List.prefix_nil.mp nothing]

/-- Inside a key that holds only objects, the first plain part is that of its objects. -/
theorem firstPlain_cons_iff (occurring : occurrences name samples = objects.map object) :
    FirstPlain samples (name :: rest) part ↔
      ∃ tail, part = name :: tail ∧ FirstPlain objects rest tail := by
  have inside : ∀ tail, HoldPlain samples (name :: tail) ↔ HoldPlain objects tail := by
    simp only [HoldPlain, valuesAt_cons_of_objects occurring, implies_true]
  have outside : ¬ HoldPlain objects [] :=
    (inside []).not.mp (not_holdPlain_of_objects occurring)
  constructor
  · intro first
    obtain ⟨others, more, same⟩ := first.proper
    obtain ⟨head, tail, rfl⟩ := List.exists_cons_of_ne_nil first.nonempty
    obtain ⟨rfl, rfl⟩ := List.cons.inj same
    have plain := (inside tail).mp first.plain
    refine ⟨tail, rfl, ?_, ⟨others, more, rfl⟩, plain, ?_⟩
    · rintro rfl
      exact outside plain
    · intro shorter present beginning held
      exact (List.cons.inj (first.shortest (name :: shorter) (List.cons_ne_nil _ _)
        (List.cons_prefix_cons.mpr ⟨rfl, beginning⟩) ((inside shorter).mpr held))).2
  · rintro ⟨tail, rfl, first⟩
    obtain ⟨others, more, rfl⟩ := first.proper
    refine ⟨List.cons_ne_nil _ _, ⟨others, more, rfl⟩, (inside tail).mpr first.plain, ?_⟩
    intro shorter present beginning held
    obtain ⟨smaller, rfl, deeper⟩ := (List.prefix_cons_iff.mp beginning).resolve_left present
    have plain := (inside smaller).mp held
    have within : smaller ≠ [] := by
      rintro rfl
      exact outside plain
    rw [first.shortest smaller within deeper plain]

/-- A path has only one first plain part. -/
theorem FirstPlain.eq {path other : List String} (first : FirstPlain samples path part)
    (second : FirstPlain samples path other) : part = other := by
  obtain ⟨rest, _, same⟩ := first.proper
  obtain ⟨others, _, alike⟩ := second.proper
  rcases List.prefix_or_prefix_of_prefix ⟨rest, same.symm⟩ ⟨others, alike.symm⟩ with
    below | above
  · exact second.shortest part first.nonempty below first.plain
  · exact (first.shortest other second.nonempty above second.plain).symm

/-- The last value at the first plain part of a path, if there is one, has a value at the rest. -/
def LeadsOn (samples : List (List (String × Json))) (path : List String) : Prop :=
  ∀ part rest, path = part ++ rest → FirstPlain samples path part →
    ((valuesAt part samples).getLast?.bind (·.at? (rest.map .field))).isSome

theorem leadsOn_iff {path : List String} :
    LeadsOn samples path ↔ ∀ part, FirstPlain samples path part →
      ∃ sample, lastWith? part samples = some sample ∧ (valueAt? path sample).isSome := by
  have follow : ∀ part rest, path = part ++ rest →
      (((valuesAt part samples).getLast?.bind (·.at? (rest.map .field))).isSome ↔
        ∃ sample, lastWith? part samples = some sample ∧ (valueAt? path sample).isSome) := by
    rintro part rest rfl
    rw [getLast?_valuesAt, Option.bind_assoc]
    simp only [← valueAt?_append]
    cases lastWith? part samples <;> simp
  constructor
  · intro leads part first
    obtain ⟨rest, _, split⟩ := first.proper
    exact (follow part rest split).mp (leads part rest split first)
  · intro leads part rest split first
    exact (follow part rest split).mpr (leads part first)

theorem leadsOn_nil : LeadsOn samples [] := by
  intro part _ _ first
  obtain ⟨_, _, split⟩ := first.proper
  exact absurd (List.append_eq_nil_iff.mp split.symm).1 first.nonempty

theorem leadsOn_cons_of_objects (occurring : occurrences name samples = objects.map object) :
    LeadsOn samples (name :: rest) ↔ LeadsOn objects rest := by
  constructor
  · intro leads part tail split first
    rw [← valuesAt_cons_of_objects occurring]
    exact leads (name :: part) tail (congrArg (name :: ·) split)
      ((firstPlain_cons_iff occurring).mpr ⟨part, rfl, first⟩)
  · intro leads part tail split first
    obtain ⟨inner, rfl, firstInner⟩ := (firstPlain_cons_iff occurring).mp first
    rw [valuesAt_cons_of_objects occurring]
    exact leads inner tail (List.cons.inj split).2 firstInner

/-- When the first key has a plain value, its last value decides. -/
theorem leadsOn_cons_of_plain (plain : HoldPlain samples [name]) {last : Json}
    (found : (occurrences name samples).getLast? = some last) :
    LeadsOn samples (name :: rest) ↔ (last.at? (rest.map .field)).isSome := by
  rw [← valuesAt_singleton] at found
  constructor
  · intro leads
    cases rest with
    | nil => rfl
    | cons next others =>
        have follows := leads [name] (next :: others) rfl
          (firstPlain_singleton (List.cons_ne_nil _ _) plain)
        rwa [found] at follows
  · intro follows part tail split first
    obtain rfl := first.eq_singleton plain
    obtain rfl := (List.cons.inj split).2
    rwa [found]

/-- A merge has a value at a path exactly when some sample has one and the last value at the first
plain part of the path leads on. -/
theorem isSome_valueAt?_merge {path : List String} (nonempty : path ≠ [])
    (canonical : CanonicalSamples samples) :
    (valueAt? path (merge samples)).isSome ↔ valuesAt path samples ≠ [] ∧ LeadsOn samples path := by
  -- Inside a key that holds only objects, these objects are the samples of the rest of the path.
  induction path generalizing samples with
  | nil => exact absurd rfl nonempty
  | cons name rest inductionHypothesis =>
      rw [valueAt?_cons]
      rcases lookup_merge_cases canonical name with
        ⟨objects, present, occurring, merged⟩ | ⟨merged, plain⟩
      · rw [merged, valuesAt_cons_of_objects occurring, leadsOn_cons_of_objects occurring]
        cases rest with
        | nil =>
            obtain ⟨members, others, rfl⟩ := List.exists_cons_of_ne_nil present
            exact iff_of_true rfl ⟨List.cons_ne_nil _ _, leadsOn_nil⟩
        | cons next others =>
            exact inductionHypothesis (List.cons_ne_nil _ _) (canonical.occurring occurring)
      · rw [merged, valuesAt_cons]
        cases found : (occurrences name samples).getLast? with
        | none => simp [List.getLast?_eq_none_iff.mp found]
        | some last =>
            have inside := List.mem_of_getLast? found
            rw [leadsOn_cons_of_plain (plain (List.ne_nil_of_mem inside)) found, Option.bind_some]
            refine (and_iff_right_of_imp fun follows => ?_).symm
            obtain ⟨value, deeper⟩ := Option.isSome_iff_exists.mp follows
            exact List.ne_nil_of_mem (List.mem_filterMap.mpr ⟨last, inside, deeper⟩)

/-- A value of a merge is the last value of the samples at its path, or both are objects. -/
theorem valueAt?_merge {path : List String} (nonempty : path ≠ [])
    (canonical : CanonicalSamples samples) {value : Json}
    (found : valueAt? path (merge samples) = some value) :
    ∃ own, (valuesAt path samples).getLast? = some own ∧ value.isObject = own.isObject ∧
      (own.isObject = false → value = own) := by
  induction path generalizing samples with
  | nil => exact absurd rfl nonempty
  | cons name rest inductionHypothesis =>
      rw [valueAt?_cons] at found
      rcases lookup_merge_cases canonical name with
        ⟨objects, present, occurring, merged⟩ | ⟨merged, _⟩
      · rw [merged] at found
        rw [valuesAt_cons_of_objects occurring]
        cases rest with
        | nil =>
            obtain rfl := Option.some.inj found
            refine ⟨object (objects.getLast present), ?_, rfl, nofun⟩
            rw [← valuesAt_cons_of_objects occurring, valuesAt_singleton, occurring,
              List.getLast?_map, List.getLast?_eq_some_getLast present]
            rfl
        | cons next others =>
            exact inductionHypothesis (List.cons_ne_nil _ _) (canonical.occurring occurring) found
      · rw [merged] at found
        obtain ⟨last, decided, deeper⟩ := Option.bind_eq_some_iff.mp found
        obtain ⟨earlier, split⟩ := List.getLast?_eq_some_iff.mp decided
        refine ⟨value, ?_, rfl, fun _ => rfl⟩
        rw [valuesAt_cons, split, List.filterMap_append, List.getLast?_append,
          List.filterMap_cons, deeper]
        rfl

end Path

/-- Which samples decide a merge at a path. The merge has a value there exactly when some sample has
one and, if some sample has another value than an object on the way, the last sample that comes as
far as the first such place has a value at the path. The last sample with a value at the path then
gives the value of the merge, where an object stands for an object. -/
theorem merge_decided (samples : List (List (String × Json))) (path : List String)
    (canonical : CanonicalSamples samples) (nonempty : path ≠ []) :
    ((valueAt? path (merge samples)).isSome ↔
      (∃ sample ∈ samples, (valueAt? path sample).isSome) ∧
        ∀ part, FirstPlain samples path part →
          ∃ sample, lastWith? part samples = some sample ∧ (valueAt? path sample).isSome) ∧
      ∀ value, valueAt? path (merge samples) = some value →
        ∃ sample own, lastWith? path samples = some sample ∧ valueAt? path sample = some own ∧
          value.isObject = own.isObject ∧ (own.isObject = false → value = own) := by
  constructor
  · rw [isSome_valueAt?_merge nonempty canonical, valuesAt_ne_nil_iff, leadsOn_iff]
  · intro value found
    obtain ⟨own, last, shape, same⟩ := valueAt?_merge nonempty canonical found
    rw [getLast?_valuesAt] at last
    obtain ⟨sample, decides, holds⟩ := Option.bind_eq_some_iff.mp last
    exact ⟨sample, own, decides, holds, shape, same⟩

/-- The samples disagree about `b` inside `a`, and the second of them has the last word. -/
def disputedSamples : List (List (String × Json)) :=
  [[("a", object [("b", string "t")])], [("a", object [("b", object [("c", boolean true)])])],
    [("a", object [("d", null)])]]

theorem firstPlain_disputedSamples : FirstPlain disputedSamples ["a", "b", "c"] ["a", "b"] where
  nonempty := List.cons_ne_nil _ _
  proper := ⟨["c"], List.cons_ne_nil _ _, rfl⟩
  plain := ⟨string "t", List.mem_cons_self, rfl⟩
  shortest := by
    intro shorter present beginning plain
    obtain ⟨tail, rfl, deeper⟩ := (List.prefix_cons_iff.mp beginning).resolve_left present
    rcases List.prefix_cons_iff.mp deeper with rfl | ⟨others, rfl, nothing⟩
    · have occurring : occurrences "a" disputedSamples = [[("b", string "t")],
          [("b", object [("c", boolean true)])], [("d", null)]].map object := rfl
      exact absurd plain (not_holdPlain_of_objects occurring)
    · rw [List.prefix_nil.mp nothing]

theorem merge_decided_disputed :
    CanonicalSamples disputedSamples ∧ ["a", "b", "c"] ≠ [] ∧
      FirstPlain disputedSamples ["a", "b", "c"] ["a", "b"] ∧
      valueAt? ["a", "b", "c"] (merge disputedSamples) = some (boolean true) := by
  have canonical : CanonicalSamples disputedSamples := by
    simp [CanonicalSamples, disputedSamples, Canonical, CanonicalMembers, Entries.Ascending]
  have law := merge_decided disputedSamples ["a", "b", "c"] canonical (List.cons_ne_nil _ _)
  have present : (valueAt? ["a", "b", "c"] (merge disputedSamples)).isSome := by
    refine law.1.mpr ⟨⟨_, List.mem_cons_of_mem _ List.mem_cons_self, rfl⟩, fun part first => ?_⟩
    obtain rfl := first.eq firstPlain_disputedSamples
    exact ⟨_, rfl, rfl⟩
  obtain ⟨value, found⟩ := Option.isSome_iff_exists.mp present
  obtain ⟨sample, own, last, holds, _, same⟩ := law.2 value found
  obtain rfl : [("a", object [("b", object [("c", boolean true)])])] = sample :=
    Option.some.inj last
  obtain rfl : boolean true = own := Option.some.inj holds
  exact ⟨canonical, List.cons_ne_nil _ _, firstPlain_disputedSamples, same rfl ▸ found⟩

end SchemaInference.Json
