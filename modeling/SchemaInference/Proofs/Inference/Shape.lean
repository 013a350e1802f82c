/-
This file shows that the schema of a document depends only on the shape of the document.
-/

import SchemaInference.Inference.Assembly
import SchemaInference.Proofs.Inference.Change
import SchemaInference.Proofs.Inference.Collected
import SchemaInference.Proofs.Json.Shape

namespace SchemaInference

open Entries Json

namespace Unions

theorem note_shape (bucket : Dict Bool) (member : String × Json) :
    note bucket (Prod.map id shape member) = note bucket member := by
  obtain ⟨name, value⟩ := member
  show note bucket (name, value.shape) = _
  rw [note, note, isObject_shape]

theorem recordMember_shape (unions : Unions) (member : String × Json) :
    unions.recordMember (Prod.map id shape member) = unions.recordMember member := by
  obtain ⟨key, value⟩ := member
  show unions.recordValue key value.shape = unions.recordValue key value
  cases value with
  | object members =>
      rw [shape_object, recordValue, recordValue, record, record, mapValues, List.foldl_map]
      simp only [note_shape]
  | _ => rfl

/-- The unions of a document are those of its shape. -/
theorem collect_shape (document : Json) : collect document.shape = collect document := by
  rw [collect, collect, visit_eq_foldl, visit_eq_foldl, occurring_shape, mapValues,
    List.foldl_map]
  simp only [recordMember_shape]

end Unions

namespace Builder

variable {builder : Builder}

/-- A build takes from its sample nothing but the shape. -/
theorem fieldWithin_shape (levels : Nat) (key : String) (sample : Json) (cache : TypeCache) :
    builder.fieldWithin levels key sample.shape cache =
      builder.fieldWithin levels key sample cache := by
  induction levels generalizing key sample cache with
  | zero => rfl
  | succ levels inductionHypothesis =>
      cases sample with
      | object members =>
          rw [shape_object, fieldWithin, fieldWithin, objectField, objectField,
            memberSamples_mapValues keepsObjects_shape, addFields_mapValues inductionHypothesis]
      | array items =>
          rw [shape_array, fieldWithin, fieldWithin]
          cases items with
          | nil => rfl
          | cons first rest =>
              rw [List.map_cons, listField, listField, itemSample_map keepsObjects_shape,
                inductionHypothesis]
      | _ => rfl

end Builder

namespace Assembler

theorem build_shape (assembler : Assembler) (document : Json) :
    assembler.build document.shape = assembler.build document := by
  have sameBuilder : assembler.builder document.shape = assembler.builder document := by
    rw [builder, builder, Unions.collect_shape]
  have blind : ∀ key sample cache, (assembler.builder document).fieldAt 0 key sample.shape cache =
      (assembler.builder document).fieldAt 0 key sample cache := Builder.fieldWithin_shape _
  rw [build, build, sameBuilder, keepsObjects_shape.members?_getD,
    Builder.addFields_mapValues blind]

theorem assemble_shape (assembler : Assembler) (document : Json) :
    assembler.assemble document.shape = assembler.assemble document := by
  rw [assemble, assemble, build_shape]

/-- Documents of the same shape have the same schema, or their assembly fails in the same way. Every
document that is read is canonical. -/
theorem assemble_eq_of_sameShape (assembler : Assembler) (first second : Json)
    (firstCanonical : first.Canonical) (secondCanonical : second.Canonical)
    (same : first.SameShape second) : assembler.assemble first = assembler.assemble second := by
  rw [← assemble_shape, same.shape_eq firstCanonical secondCanonical, assemble_shape]

/-- A document whose key `a` holds a list with the given objects for items. -/
def listDocument (first second : Json) (truth : Bool) : Json :=
  .object [("a", .array [.object [("x", first)], .object [("x", second)]]), ("c", .boolean truth)]

/-- The number and the boolean differ, and null stands for a text in the last item. -/
theorem assemble_eq_of_sameShape_list :
    let first := listDocument (.number (.natural 1)) .null true
    let second := listDocument (.number (.natural 2)) (.string "t") false
    first.Canonical ∧ second.Canonical ∧ first.SameShape second ∧
      (ofOptions .standard).assemble first = (ofOptions .standard).assemble second := by
  intro first second
  have firstCanonical : first.Canonical := by
    simp only [first, listDocument, Canonical, CanonicalMembers, CanonicalItems, Ascending]
    decide
  have secondCanonical : second.Canonical := by
    simp only [second, listDocument, Canonical, CanonicalMembers, CanonicalItems, Ascending]
    decide
  have member : ∀ {value other : Json}, value.SameShape other →
      (Json.object [("x", value)]).SameShape (.object [("x", other)]) := by
    intro value other same
    refine .object (fun _ => Iff.rfl) fun key inner outer inside counterpart => ?_
    obtain ⟨rfl, rfl⟩ := Prod.mk.inj (List.mem_singleton.mp inside)
    obtain ⟨_, rfl⟩ := Prod.mk.inj (List.mem_singleton.mp counterpart)
    exact same
  have same : first.SameShape second := by
    refine .object (fun _ => Iff.rfl) ?_
    simp only [List.mem_cons, Prod.mk.injEq, List.not_mem_nil, or_false]
    rintro key value other (⟨rfl, rfl⟩ | ⟨rfl, rfl⟩) (⟨_, rfl⟩ | ⟨_, rfl⟩)
    · refine .array rfl ?_
      simp only [List.zip_cons_cons, List.zip_nil_left, List.mem_cons, List.not_mem_nil, or_false]
      rintro pair (rfl | rfl)
      · exact member (.number _ _)
      · exact member (.textual rfl rfl)
    · contradiction
    · contradiction
    · exact .boolean _ _
  exact ⟨firstCanonical, secondCanonical, same,
    assemble_eq_of_sameShape (ofOptions .standard) first second firstCanonical secondCanonical same⟩

end Assembler

end SchemaInference
