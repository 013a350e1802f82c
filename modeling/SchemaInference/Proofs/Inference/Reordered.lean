/-
This file shows that the order of the items of a list does not matter for the schema when the items
are objects that agree.
-/

import SchemaInference.Proofs.Inference.Digest
import SchemaInference.Proofs.Inference.Recorded
import SchemaInference.Proofs.Inference.Shape
import SchemaInference.Proofs.Json.Reordered

namespace SchemaInference

open Builder Entries Json

/-- The unions of a document depend only on its occurring objects, and on these only through their
flags. -/
theorem Unions.collect_eq_of_perm {first second : Json}
    (perm : (mapValues flags? first.occurring).Perm (mapValues flags? second.occurring)) :
    collect first = collect second := by
  have contains : ∀ {document : Json} {key : String}, (collect document).contains key = true ↔
      ∃ flags, (key, some flags) ∈ mapValues flags? document.occurring := by
    intro document key
    simp [contains_collect_iff, mem_mapValues_flags?_iff]
  have holds : ∀ {document : Json} {key name : String}, (collect document).Holds key name ↔
      ∃ flags, (key, some flags) ∈ mapValues flags? document.occurring ∧
        name ∈ flags.map Prod.fst := by
    intro document key name
    rw [holds_collect_iff, exists_flags_iff]
    simp only [map_fst_mapValues]
  have isObject : ∀ {document : Json} {key name : String},
      (collect document).isObject key name = true ↔
        ∃ flags, (key, some flags) ∈ mapValues flags? document.occurring ∧
          (name, true) ∈ flags := by
    intro document key name
    rw [isObject_collect_iff, exists_flags_iff]
    simp [mapValues]
  apply ext_queries
  · intro key
    simp only [contains, perm.mem_iff]
  · intro key name
    simp only [holds, perm.mem_iff]
  · intro key name
    simp only [isObject, perm.mem_iff]

theorem Builder.itemSample_map_object (first : List (String × Json))
    (rest : List (List (String × Json))) :
    itemSample (object first) (rest.map object) = object (merge (first :: rest)) := by
  have all : (object first :: rest.map object).mapM members? = some (first :: rest) :=
    mapM_members?_eq_some_iff.mpr rfl
  rw [itemSample, all]

/-- An array of objects has the digest of their merge. -/
theorem Json.digest_shape_array_map_object {objects : List (List (String × Json))}
    (nonempty : objects ≠ []) : (array (objects.map object)).shape.digest =
      array [(object (mapValues shape (merge objects))).digest, null] := by
  obtain ⟨first, rest, rfl⟩ := List.exists_cons_of_ne_nil nonempty
  rw [List.map_cons, shape_array, List.map_cons, digest_array_cons,
    itemSample_map keepsObjects_shape, itemSample_map_object, shape_object]

/-- Reordered values have shapes with the same digest. -/
theorem Json.Reordered.digest_shape_eq {first second : Json} (reordered : first.Reordered second)
    (canonical : first.Canonical) : first.shape.digest = second.shape.digest := by
  induction reordered with
  | @items objects others agreeing perm =>
      by_cases empty : objects = []
      · subst empty
        rw [perm.nil_eq]
      · have present : others ≠ [] := fun none => empty (none ▸ perm).eq_nil
        have samples : CanonicalSamples objects := fun members listed =>
          canonicalItems_iff.mp canonical _ (List.mem_map_of_mem listed)
        rw [digest_shape_array_map_object empty, digest_shape_array_map_object present,
          mapValues_shape_merge_perm samples agreeing perm]
  | item before after inner inductionHypothesis =>
      have inside := inductionHypothesis (canonicalItems_iff.mp canonical _ (by simp))
      rw [shape_array, shape_array]
      apply digest_array_congr
      simp [inside]
  | member before key after inner inductionHypothesis =>
      have inside := inductionHypothesis (canonicalMembers_iff.mp canonical.2 (key, _) (by simp))
      simp [shape_object, digest_object, mapValues, inside]

namespace Assembler

/-- The schema of a document depends only on its unions and on the digest of its shape. -/
theorem build_eq_of_digest (assembler : Assembler) {first second : Json}
    (unions : Unions.collect first = .collect second)
    (digests : first.shape.digest = second.shape.digest) :
    assembler.build first = assembler.build second := by
  have keeps : KeepsObjects fun value => value.shape.digest :=
    keepsObjects_digest.comp keepsObjects_shape
  have sameBuilder : assembler.builder first = assembler.builder second := by
    rw [builder, builder, unions]
  have blind : ∀ key (sample : Json) cache,
      (assembler.builder second).fieldAt 0 key sample.shape.digest cache =
        (assembler.builder second).fieldAt 0 key sample cache := by
    intro key sample cache
    rw [fieldAt, fieldWithin_digest, fieldWithin_shape]
  rw [build, build, sameBuilder, ← addFields_mapValues blind (first.members?.getD []),
    ← addFields_mapValues blind (second.members?.getD []), ← keeps.members?_getD,
    ← keeps.members?_getD, digests]

/-- Documents that differ only in the order of a list's items have the same schema, or their
assembly fails in the same way. The list lies anywhere, and its items are objects that agree. Every
document that is read is canonical. -/
theorem assemble_eq_of_reordered (assembler : Assembler) (first second : Json)
    (canonical : first.Canonical) (reordered : first.Reordered second) :
    assembler.assemble first = assembler.assemble second := by
  have same := assembler.build_eq_of_digest (Unions.collect_eq_of_perm reordered.occurring_perm)
    (reordered.digest_shape_eq canonical)
  rw [assemble, assemble, same]

/-- Both objects have a number under `x`, and one of them has an object under `y`. -/
theorem agreeing_numbers : Agreeing [[("x", number (.natural 1))],
    [("x", number (.natural 2)), ("y", object [])]] := by
  rw [agreeing_iff]
  intro name
  by_cases isX : name = "x"
  · subst isX
    refine Or.inr ?_
    have occurring : occurrences "x" [[("x", number (.natural 1))],
      [("x", number (.natural 2)), ("y", object [])]] = [.natural 1, .natural 2].map number := rfl
    rw [occurring, List.forall_mem_map]
    intro first _
    rw [List.forall_mem_map]
    exact fun second _ => ⟨rfl, .number first second⟩
  by_cases isY : name = "y"
  · subst isY
    exact Or.inl ⟨[[]], rfl, agreeing_iff.mpr fun name => Or.inr nofun⟩
  · refine Or.inr ?_
    simp [occurrences, List.lookup_cons, beq_false_of_ne isX, beq_false_of_ne isY]

/-- The list lies in a list that holds another item as well. -/
theorem assemble_eq_of_reordered_list :
    let objects := [[("x", number (.natural 1))], [("x", number (.natural 2)), ("y", object [])]]
    let first := object [("a", array [array (objects.map object), null])]
    let second := object [("a", array [array (objects.reverse.map object), null])]
    first.Canonical ∧ first.Reordered second ∧
      (ofOptions .standard).assemble first = (ofOptions .standard).assemble second := by
  intro objects first second
  have canonical : first.Canonical := by
    simp only [first, objects, List.map_cons, List.map_nil, Canonical, CanonicalMembers,
      CanonicalItems, Ascending]
    decide
  have reordered : first.Reordered second :=
    .member [] "a" [] (.item [] [null] (.items agreeing_numbers (List.reverse_perm objects).symm))
  exact ⟨canonical, reordered,
    assemble_eq_of_reordered (ofOptions .standard) first second canonical reordered⟩

end Assembler

end SchemaInference
