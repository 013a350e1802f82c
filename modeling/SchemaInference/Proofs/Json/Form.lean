/-
This file says when a JSON form is read as a value whatever the order of its members is.
-/

import SchemaInference.Proofs.Dict
import SchemaInference.Proofs.Json.Reading
import SchemaInference.Proofs.Json.Shape
import SchemaInference.Schema.Form

namespace SchemaInference

open Json (Tree)

/-- The parts of a record may be given in any order. -/
theorem Record.byName?_perm {α : Type} (names : List String)
    {members others : List (Option String × α)} (perm : members.Perm others) :
    byName? names members = byName? names others := by
  rw [byName?, byName?, perm.all_eq]
  congr 2
  funext name
  have filtered := perm.filter fun member => member.1 == some name
  generalize members.filter (fun member => member.1 == some name) = found at filtered ⊢
  generalize others.filter (fun member => member.1 == some name) = same at filtered ⊢
  have length := filtered.length_eq
  match found, same with
  | [], [] => rfl
  | [_], [_] => rw [List.singleton_perm_singleton.mp filtered]
  | _ :: _ :: _, _ :: _ :: _ => rfl

namespace Json

theorem canonicalMembers_eq_mapValues (members : List (String × Json)) :
    canonicalMembers members = Entries.mapValues canonical members := by
  induction members with
  | nil => rfl
  | cons member rest inductionHypothesis =>
      rw [canonicalMembers, inductionHypothesis]
      rfl

mutual

theorem Integral.canonical : (value : Json) → value.Integral → value.canonical.Integral
  | null, integral | boolean _, integral | number _, integral | string _, integral => integral
  | array items, integral =>
      integral_array_iff.mpr (integral_canonicalItems items (integral_array_iff.mp integral))
  | object members, integral =>
      integral_object_iff.mpr fun member inside =>
        integral_canonicalMembers members (integral_object_iff.mp integral) member
          (Entries.mem_of_mem_ofList inside)

theorem integral_canonicalItems : (items : List Json) → (∀ item ∈ items, item.Integral) →
    ∀ item ∈ canonicalItems items, item.Integral
  | [], _ => nofun
  | item :: rest, integral => by
      obtain ⟨first, later⟩ := List.forall_mem_cons.mp integral
      exact List.forall_mem_cons.mpr
        ⟨Integral.canonical item first, integral_canonicalItems rest later⟩

theorem integral_canonicalMembers : (members : List (String × Json)) →
    (∀ member ∈ members, member.2.Integral) →
    ∀ member ∈ canonicalMembers members, member.2.Integral
  | [], _ => nofun
  | (_, value) :: rest, integral => by
      obtain ⟨first, later⟩ := List.forall_mem_cons.mp integral
      exact List.forall_mem_cons.mpr
        ⟨Integral.canonical value first, integral_canonicalMembers rest later⟩

end

/-- A form is read as a value in the order in which it is built and in the order of its keys. -/
structure ReadsAs {α : Type} (read : Tree → Option α) (form : Json) (value : α) : Prop where
  built : read form.tree = some value
  sorted : read form.canonical.tree = some value

theorem ReadsAs.of_canonical {α : Type} {read : Tree → Option α} {form : Json} {value : α}
    (fixed : form.canonical = form) (built : read form.tree = some value) :
    ReadsAs read form value :=
  ⟨built, by rw [fixed]; exact built⟩

/-- The order of the keys is some order of the members. -/
theorem exists_tree_canonical (members : List (String × Json))
    (distinct : (members.map Prod.fst).Nodup) :
    ∃ others, (object members).canonical.tree = .object others ∧
      others.Perm (members.map fun member => (some member.1, member.2.canonical.tree)) := by
  refine ⟨_, by rw [canonical, tree, memberTrees_eq_map, canonicalMembers_eq_mapValues], ?_⟩
  rw [← Entries.map_fst_mapValues canonical] at distinct
  have perm := (Entries.ofList_perm distinct).map fun member => (some member.1, member.2.tree)
  rwa [Entries.mapValues, List.map_map] at perm

end Json

namespace Dict

variable {α : Type} {dict : Dict α} {encode : α → Json} {read : Tree → Option α}

theorem integral_json (each : ∀ value ∈ dict.values, (encode value).Integral) :
    (dict.json encode).Integral := by
  rw [json, Json.integral_object_iff]
  intro member inside
  obtain ⟨entry, listed, rfl⟩ := List.mem_map.mp inside
  exact each _ (List.mem_map_of_mem listed)

/-- The entries of a dictionary ascend already. -/
theorem canonical_json :
    (dict.json encode).canonical = dict.json fun value => (encode value).canonical := by
  have entries : dict.entries.map (fun entry => (entry.1, encode entry.2)) =
      Entries.mapValues encode dict.entries := rfl
  have ascending : Entries.Ascending
      (Entries.mapValues Json.canonical (Entries.mapValues encode dict.entries)) :=
    Entries.ascending_mapValues (Entries.ascending_mapValues dict.ascending)
  rw [json, Json.canonical, Json.canonicalMembers_eq_mapValues, entries,
    Entries.ofList_eq_self ascending, json, Entries.mapValues, Entries.mapValues, List.map_map]
  rfl

theorem dict?_json (each : ∀ value ∈ dict.values, read (encode value).tree = some value) :
    (dict.json encode).tree.dict? read = some dict := by
  have entries : ∀ entries : List (String × α),
      (∀ entry ∈ entries, read (encode entry.2).tree = some entry.2) →
      (entries.map fun entry => (some entry.1, (encode entry.2).tree)).mapM (fun member => do
        let key ← member.1
        let value ← read member.2
        some (key, value)) = some entries := by
    intro entries each
    induction entries with
    | nil => rfl
    | cons entry rest inductionHypothesis =>
        obtain ⟨first, later⟩ := List.forall_mem_cons.mp each
        rw [List.map_cons, List.mapM_cons, inductionHypothesis later]
        simp [first]
  have all := entries dict.entries fun entry listed => each _ (List.mem_map_of_mem listed)
  rw [json, Json.tree, Json.memberTrees_eq_map, List.map_map, Tree.dict?]
  simp only [Function.comp_def]
  rw [all]
  simp only [Option.bind_eq_bind, Option.bind_some, ofList, Entries.ofList_eq_self dict.ascending]

theorem readsAs (each : ∀ value ∈ dict.values, (encode value).ReadsAs read value) :
    (dict.json encode).ReadsAs (·.dict? read) dict where
  built := dict?_json fun value listed => (each value listed).built
  sorted := by
    rw [canonical_json]
    exact dict?_json fun value listed => (each value listed).sorted

end Dict

namespace Json.Tree

theorem readForm_eq_ok {α : Type} {read : Nat → Tree → Option α} {text : String} {tree : Tree}
    {value : α} (spelled : read? text.toList = some tree)
    (found : read nestingLimit tree = some value) : readForm read text = .ok value := by
  rw [readForm, spelled, Option.bind_some, found]

end Json.Tree

end SchemaInference
