/-
This file says how the samples of a key are drawn from a document with arrays.
-/

import SchemaInference.Inference.Builder
import SchemaInference.Proofs.Json.Merged
import SchemaInference.Proofs.Json.Occurring

namespace SchemaInference

open Json

/-- Items that are all objects are merged. Otherwise the first item stands for all of them. -/
theorem Builder.itemSample_cases (first : Json) (rest : List Json) :
    (∃ objects : List (List (String × Json)), first :: rest = objects.map object ∧
      itemSample first rest = object (merge objects)) ∨
      (∀ objects : List (List (String × Json)), first :: rest ≠ objects.map object) ∧
        itemSample first rest = first := by
  unfold itemSample
  split
  · next objects all => exact Or.inl ⟨objects, mapM_members?_eq_some_iff.mp all, rfl⟩
  · next mixed =>
      refine Or.inr ⟨fun objects same => ?_, rfl⟩
      rw [mapM_members?_eq_some_iff.mpr same] at mixed
      cases mixed

namespace Json

/-- A sample of a key is a value of the key, the merge of some of its objects, the sample of the
items of an array that is a sample itself, or it stands for a member that an object lacks. -/
inductive Drawn (document : Json) (key : String) : Json → Prop where
  | value {sample : Json} (occurs : (key, sample) ∈ document.occurring) :
      Drawn document key sample
  | merged {objects : List (List (String × Json))} (nonempty : objects ≠ [])
      (occur : ∀ members ∈ objects, (key, object members) ∈ document.occurring) :
      Drawn document key (object (merge objects))
  | items {first : Json} {rest : List Json} (drawn : Drawn document key (array (first :: rest))) :
      Drawn document key (Builder.itemSample first rest)
  | emptyObject {members : List (String × Json)}
      (occurs : (key, object members) ∈ document.occurring) : Drawn document key (object [])
  | null : Drawn document key null

variable {document : Json} {key name : String}

/-- The members inside a drawn array occur in the document. -/
theorem Drawn.occurringItems_subset {items : List Json} (drawn : document.Drawn key (array items))
    {member : String × Json} (inside : member ∈ occurringItems items) :
    member ∈ document.occurring := by
  generalize shape : array items = sample at drawn
  induction drawn generalizing items with
  | value occurs =>
      subst shape
      exact mem_occurring_trans document occurs inside
  | merged => cases shape
  | @items first rest _ inductionHypothesis =>
      apply inductionHypothesis _ rfl
      rcases Builder.itemSample_cases first rest with ⟨_, _, merged⟩ | ⟨_, same⟩
      · rw [merged] at shape
        cases shape
      · rw [same] at shape
        subst shape
        exact List.mem_append_left _ inside
  | emptyObject => cases shape
  | null => cases shape

/-- The members of a merge of objects are drawn when the members of the objects occur. -/
theorem drawn_of_mem_merge {objects : List (List (String × Json))}
    (occur : ∀ members ∈ objects, ∀ member ∈ members, member ∈ document.occurring) {sample : Json}
    (inside : (name, sample) ∈ merge objects) : document.Drawn name sample := by
  rcases mem_merge inside with ⟨members, object, member⟩ | ⟨inner, nonempty, rfl, each⟩
  · exact .value (occur members object _ member)
  · refine .merged nonempty fun others deeper => ?_
    obtain ⟨members, object, member⟩ := each others deeper
    exact occur members object _ member

/-- The members of a drawn object are drawn. -/
theorem Drawn.of_member {sample : Json} {members : List (String × Json)}
    (drawn : document.Drawn key (object members)) (inside : (name, sample) ∈ members) :
    document.Drawn name sample := by
  generalize shape : object members = outer at drawn
  cases drawn with
  | value occurs =>
      subst shape
      exact .value (mem_occurring_member occurs inside)
  | merged _ occur =>
      obtain rfl := object.inj shape
      exact drawn_of_mem_merge (fun others object _ member =>
        mem_occurring_member (occur others object) member) inside
  | @items first rest drawnItems =>
      rcases Builder.itemSample_cases first rest with ⟨objects, all, merged⟩ | ⟨_, same⟩
      · rw [merged] at shape
        obtain rfl := object.inj shape
        refine drawn_of_mem_merge (fun others object _ member => ?_) inside
        apply drawnItems.occurringItems_subset
        rw [all]
        exact mem_occurringItems_of_mem (List.mem_map_of_mem object) (mem_occurring_of_mem member)
      · rw [same] at shape
        subst shape
        exact .value (drawnItems.occurringItems_subset
          (List.mem_append_left _ (mem_occurring_of_mem inside)))
  | emptyObject =>
      obtain rfl := object.inj shape
      cases inside
  | null => cases shape

end Json

end SchemaInference
