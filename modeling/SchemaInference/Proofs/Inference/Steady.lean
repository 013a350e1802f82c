/-
This file follows the calls of the builder for a settled document.
-/

import SchemaInference.Proofs.Inference.Assembled
import SchemaInference.Proofs.Json.Steady

namespace SchemaInference

namespace Builder

open Json

/-- A sound call samples its key, and every level that is gone has opened the type of another
key. -/
structure Call.Sound (builder : Builder) (document : Json) (call : Call) : Prop where
  sampled : document.Sampled call.key call.sample
  levels : call.levels + call.pending.length = builder.options.maxDepth + 1
  distinct : call.pending.Nodup
  opened : ∀ name ∈ call.pending, name ∈ document.objectKeys.image builder.namer

variable {builder : Builder} {document : Json}

/-- There are at most as many types being built as keys with objects. -/
theorem Call.Sound.pending_le {call : Call} (sound : call.Sound builder document) :
    call.pending.length ≤ document.objectKeys.card :=
  length_names_le sound.distinct sound.opened

/-- A sound call has a level left when there are enough for the keys with objects. -/
theorem Call.Sound.levels_pos {call : Call} (sound : call.Sound builder document)
    (deep : document.objectKeys.card ≤ builder.options.maxDepth) :
    0 < call.levels := by
  have bound := sound.pending_le
  have total := sound.levels
  omega

/-- The flag of a member has the shape of its values. -/
theorem isObject_collect_of_settled (settled : document.Settled) {key name : String}
    {members : List (String × Json)} {value : Json}
    (outer : (key, object members) ∈ document.occurring) (inside : (name, value) ∈ members) :
    (Unions.collect document).isObject key name = value.isObject := by
  have occurs := mem_occurring_member outer inside
  rw [Bool.eq_iff_iff, Unions.isObject_collect_iff]
  constructor
  · rintro ⟨others, other, found, member, shape⟩
    rw [settled.isObject_eq occurs (mem_occurring_member found member)]
    exact shape
  · intro shape
    exact ⟨members, value, outer, inside, shape⟩

/-- The members of the type of a sampled key are sampled as well. -/
theorem sampled_memberSample (settled : document.Settled)
    (collected : builder.unions = .collect document) {key name : String}
    {members : List (String × Json)} (sampled : document.Sampled key (object members))
    (inside : name ∈ builder.memberNames key members) :
    document.Sampled name (builder.memberSample key members name) := by
  unfold memberSample
  split
  · next value found => exact sampled.of_member (Entries.mem_of_lookup found)
  · next absent =>
      have held : builder.unions.Holds key name := by
        refine (mem_memberNames_iff.mp inside).resolve_left fun own => ?_
        have present := Entries.lookup_isSome_iff_mem_keys.mpr own
        rw [absent] at present
        cases present
      rw [collected, Unions.holds_collect_iff] at held
      obtain ⟨others, outer, own⟩ := held
      obtain ⟨⟨_, value⟩, member, rfl⟩ := List.mem_map.mp own
      refine ⟨value, mem_occurring_member outer member, Or.inr ?_⟩
      rw [collected, isObject_collect_of_settled settled outer member]

/-- A nested call of a sound call is sound. -/
theorem Call.Sound.nested (settled : document.Settled)
    (collected : builder.unions = .collect document) {types : Dict ObjectType}
    {outer inner : Call} (nested : builder.Nested types outer inner)
    (sound : outer.Sound builder document) : inner.Sound builder document := by
  cases nested with
  | @member levels key name members pending fresh stored inside =>
      have objectKey : key ∈ document.objectKeys := by
        obtain ⟨value, occurs, shape⟩ := sound.sampled
        refine mem_objectKeys_iff.mpr ⟨value, occurs, ?_⟩
        rw [← settled.isObject_sample sound.sampled occurs]
        rfl
      constructor
      case sampled => exact sampled_memberSample settled collected sound.sampled inside
      case levels =>
        have total := sound.levels
        simp only [List.length_cons] at total ⊢
        omega
      case distinct => exact List.nodup_cons.mpr ⟨fresh, sound.distinct⟩
      case opened =>
        intro other known
        rcases List.mem_cons.mp known with rfl | older
        · exact Finset.mem_image_of_mem _ objectKey
        · exact sound.opened other older
  | item => exact absurd sound.sampled settled.sample_ne_array

/-- The field of a sound call with a level left refers to the type of its key, or it is a scalar. -/
theorem Call.Sound.callField_eq (settled : document.Settled) {call : Call}
    (sound : call.Sound builder document) (left : 0 < call.levels) :
    builder.callField call = if call.sample.isObject then .object call.key (builder.namer call.key)
      else .scalar call.key (.of call.sample) := by
  obtain ⟨levels, more⟩ := Nat.exists_eq_add_one.mpr left
  obtain ⟨callLevels, key, sample, pending⟩ := call
  obtain rfl : callLevels = levels + 1 := more
  cases sample with
  | array items => exact absurd sound.sampled settled.sample_ne_array
  | _ => rfl

/-- Such a field is an object as its key is. -/
theorem Call.Sound.type_eq_of_levels (settled : document.Settled) {call : Call}
    (sound : call.Sound builder document) (left : 0 < call.levels) {value : Json}
    (occurs : (call.key, value) ∈ document.occurring) :
    (builder.callField call).type = if value.isObject then .object (builder.namer call.key)
      else .scalar (.of call.sample) := by
  rw [sound.callField_eq settled left, settled.isObject_sample sound.sampled occurs]
  split <;> rfl

end Builder

open Builder in
/-- The calls for the root are sound. -/
theorem Assembler.sound_of_rootCalls {assembler : Assembler} {document : Json} {call : Call}
    (made : assembler.rootCalls document call) :
    call.Sound (assembler.builder document) document := by
  obtain ⟨⟨key, sample⟩, inside, rfl⟩ := made
  constructor
  case sampled => exact ⟨sample, mem_occurring_of_mem_rootMembers inside, Or.inl rfl⟩
  case levels => rfl
  case distinct => exact List.nodup_nil
  case opened => simp

end SchemaInference
