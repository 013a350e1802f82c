/-
This file says for which keys the type is built with no level left for its members.
-/

import SchemaInference.Proofs.Inference.Steady

namespace SchemaInference

namespace Json

/-- The keys lie inside one another, the innermost first. The outermost holds an object in the root,
and every other one holds an object in some object of the key around it. -/
inductive Chain (document : Json) : List String → Prop where
  | root {key : String} {members : List (String × Json)}
      (inside : (key, object members) ∈ Assembler.rootMembers document) : Chain document [key]
  | member {outer inner : String} {outers : List String} {members others : List (String × Json)}
      (chain : Chain document (outer :: outers))
      (occurs : (outer, object members) ∈ document.occurring)
      (inside : (inner, object others) ∈ members) : Chain document (inner :: outer :: outers)

theorem Chain.mem_objectKeys {document : Json} {keys : List String} (chain : document.Chain keys) :
    ∀ key ∈ keys, key ∈ document.objectKeys := by
  induction chain with
  | root inside =>
      intro key listed
      obtain rfl := List.mem_singleton.mp listed
      exact mem_objectKeys_iff.mpr
        ⟨_, Assembler.mem_occurring_of_mem_rootMembers inside, rfl⟩
  | member _ occurs inside inductionHypothesis =>
      intro key listed
      rcases List.mem_cons.mp listed with rfl | outer
      · exact mem_objectKeys_iff.mpr ⟨_, mem_occurring_member occurs inside, rfl⟩
      · exact inductionHypothesis key outer

end Json

namespace Builder

variable {builder : Builder} {document : Json}

/-- A member is sampled by an object only when it holds an object inside its key. -/
theorem exists_object_of_memberSample (collected : builder.unions = .collect document)
    {key name : String} {members inner : List (String × Json)}
    (sampled : document.Sampled key (.object members))
    (shape : builder.memberSample key members name = .object inner) :
    ∃ outer others, (key, .object outer) ∈ document.occurring ∧ (name, .object others) ∈ outer := by
  unfold memberSample at shape
  split at shape
  · next value found =>
      subst shape
      obtain ⟨value, occurs, rfl | same⟩ := sampled
      · exact ⟨members, inner, occurs, Entries.mem_of_lookup found⟩
      · split at same
        · obtain rfl := Json.object.inj same
          cases found
        · cases same
  · split at shape
    · next flagged =>
        rw [collected, Unions.isObject_collect_iff] at flagged
        obtain ⟨outer, value, occurs, inside, object⟩ := flagged
        cases value with
        | object others => exact ⟨outer, others, occurs, inside⟩
        | _ => cases object
    · cases shape

/-- The pending names of a chained call belong to keys that lie inside one another around it. -/
def Call.Chained (builder : Builder) (document : Json) (call : Call) : Prop :=
  ∃ outers, call.pending = outers.map builder.namer ∧
    ∀ members, call.sample = .object members → document.Chain (call.key :: outers)

/-- A nested call of a chained call is chained. -/
theorem Call.Chained.nested (settled : document.Settled)
    (collected : builder.unions = .collect document) {types : Dict ObjectType}
    {outer inner : Call} (nested : builder.Nested types outer inner)
    (sound : outer.Sound builder document) (chained : outer.Chained builder document) :
    inner.Chained builder document := by
  cases nested with
  | @member levels key name members pending fresh stored inside =>
      obtain ⟨outers, named, chain⟩ := chained
      refine ⟨key :: outers, congrArg (builder.namer key :: ·) named, fun others shape => ?_⟩
      obtain ⟨_, _, occurs, object⟩ :=
        exists_object_of_memberSample collected sound.sampled shape
      exact .member (chain members rfl) occurs object
  | item => exact absurd sound.sampled settled.sample_ne_array

end Builder

namespace Assembler

open Builder

variable {assembler : Assembler} {document : Json} {key : String} {levels : Nat}
  {members : List (String × Json)} {pending : List String}

theorem Built.sound (settled : document.Settled)
    (built : assembler.Built document key levels members pending) :
    Call.Sound (assembler.builder document) document
      ⟨levels + 1, key, .object members, pending⟩ :=
  built.holds (Call.Sound (assembler.builder document) document)
    (fun nested sound => sound.nested settled rfl nested) sound_of_rootCalls

/-- The key of a built type is the innermost of different keys that lie inside one another. The
levels that are left and the keys around it make up the ceiling. -/
theorem Built.exists_chain (settled : document.Settled)
    (built : assembler.Built document key levels members pending) :
    ∃ outers, document.Chain (key :: outers) ∧ (key :: outers).Nodup ∧
      levels + outers.length = assembler.options.maxDepth := by
  have sound := built.sound settled
  have start : ∀ {call : Call}, assembler.rootCalls document call →
      call.Sound (assembler.builder document) document ∧
        call.Chained (assembler.builder document) document := by
    intro call made
    refine ⟨sound_of_rootCalls made, ?_⟩
    obtain ⟨⟨name, sample⟩, inside, rfl⟩ := made
    refine ⟨[], rfl, ?_⟩
    rintro others rfl
    exact .root inside
  obtain ⟨_, outers, named, chain⟩ := built.holds
    (fun call => call.Sound (assembler.builder document) document ∧
      call.Chained (assembler.builder document) document)
    (fun nested invariant => ⟨invariant.1.nested settled rfl nested,
      Call.Chained.nested settled rfl nested invariant.1 invariant.2⟩) start
  obtain rfl : pending = outers.map assembler.namer := named
  refine ⟨outers, chain members rfl, List.nodup_cons.mpr ⟨fun inside => ?_, ?_⟩, ?_⟩
  · exact built.fresh (List.mem_map_of_mem inside)
  · exact List.Nodup.of_map _ sound.distinct
  · have total : levels + 1 + (outers.map assembler.namer).length =
        assembler.options.maxDepth + 1 := sound.levels
    rw [List.length_map] at total
    omega

/-- No level is left for the members of the type of the key. -/
def BuiltAtCeiling (assembler : Assembler) (document : Json) (key : String) : Prop :=
  ∃ members pending, assembler.Built document key 0 members pending

/-- No type is built at a ceiling that is as high as there are keys with objects. -/
theorem not_builtAtCeiling_of_card_le (settled : document.Settled)
    (deep : document.objectKeys.card ≤ assembler.options.maxDepth) :
    ¬ assembler.BuiltAtCeiling document key := by
  rintro ⟨members, pending, built⟩
  obtain ⟨outers, chain, distinct, total⟩ := built.exists_chain settled
  have included : (key :: outers).toFinset ⊆ document.objectKeys := fun other listed =>
    chain.mem_objectKeys other (List.mem_toFinset.mp listed)
  have bound := Finset.card_le_card included
  rw [List.toFinset_card_of_nodup distinct, List.length_cons] at bound
  omega

end Assembler

end SchemaInference
