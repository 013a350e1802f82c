/-
This file bounds the depth of a build by the keys and the nesting of its document.
-/

import SchemaInference.Proofs.Inference.Traced
import SchemaInference.Proofs.Json.Nesting

namespace SchemaInference

/-- The same options with another ceiling. -/
def Options.withMaxDepth (options : Options) (maxDepth : Nat) : Options :=
  { options with maxDepth }

namespace Builder

open Json

/-- The ceiling of the options counts only for the levels that a build starts with. -/
theorem fieldWithin_withMaxDepth (builder : Builder) (maxDepth levels : Nat) :
    fieldWithin ⟨builder.options.withMaxDepth maxDepth, builder.namer, builder.unions⟩ levels =
      builder.fieldWithin levels := by
  induction levels with
  | zero => rfl
  | succ levels inductionHypothesis =>
      funext key sample cache
      cases sample with
      | object members =>
          rw [fieldWithin, fieldWithin, inductionHypothesis]
          rfl
      | array items => rw [fieldWithin, fieldWithin, inductionHypothesis]
      | _ => rfl

/-- The depth and the levels that are left make up the ceiling. -/
def Call.AtDepth (call : Call) (maxDepth depth : Nat) : Prop :=
  call.levels + depth = maxDepth + 1

theorem Call.AtDepth.next {outer inner : Call} {maxDepth depth : Nat}
    (atDepth : outer.AtDepth maxDepth depth) (used : outer.levels = inner.levels + 1) :
    inner.AtDepth maxDepth (depth + 1) := by
  unfold AtDepth at atDepth ⊢
  omega

/-- A bounded call has a sample with few enough brackets for its depth. Every level that is gone
has opened either the type of another key or a bracket of the document. -/
structure Call.Bounded (builder : Builder) (document : Json) (depth : Nat) (call : Call) :
    Prop where
  atDepth : call.AtDepth builder.options.maxDepth depth
  known : call.key ∈ document.keys
  room : ∃ levels, call.sample.Within document.keys levels ∧
    depth + levels ≤ document.nesting + call.pending.length
  distinct : call.pending.Nodup
  opened : ∀ name ∈ call.pending, name ∈ document.keys.image builder.namer

section Bound

variable {builder : Builder} {document : Json} {depth : Nat}

theorem Call.Bounded.depth_le {call : Call} (bounded : call.Bounded builder document depth) :
    depth ≤ document.keys.card + document.nesting := by
  obtain ⟨_, _, total⟩ := bounded.room
  have few := length_names_le bounded.distinct bounded.opened
  omega

/-- A member that is absent from the sample is known from the document. -/
theorem mem_keys_of_mem_memberNames (collected : builder.unions = .collect document)
    {levels : Nat} {key name : String} {members : List (String × Json)}
    (within : (object members).Within document.keys levels)
    (inside : name ∈ builder.memberNames key members) : name ∈ document.keys := by
  rcases mem_memberNames_iff.mp inside with own | held
  · obtain ⟨member, listed, rfl⟩ := List.mem_map.mp own
    obtain ⟨_, rfl, each⟩ := within.exists_members
    exact (each member listed).1
  · rw [collected, Unions.holds_collect_iff] at held
    obtain ⟨others, occurs, own⟩ := held
    obtain ⟨member, listed, rfl⟩ := List.mem_map.mp own
    exact mem_keys_of_occurring (mem_occurring_member occurs listed)

/-- A member needs no more room than its object, also when it restarts from an object without
members. -/
theorem within_memberSample {keys : Finset String} {levels : Nat} {key name : String}
    {members : List (String × Json)} (within : (object members).Within keys levels) :
    (builder.memberSample key members name).Within keys levels := by
  obtain ⟨_, rfl, each⟩ := within.exists_members
  unfold memberSample
  split
  · next value found => exact (each _ (Entries.mem_of_lookup found)).2.succ
  · split
    · exact List.forall_mem_nil _
    · trivial

/-- The sample of the items of an array needs less room than the array. -/
theorem within_itemSample {keys : Finset String} {levels : Nat} {first : Json}
    {rest : List Json} (within : (array (first :: rest)).Within keys (levels + 1)) :
    (itemSample first rest).Within keys levels := by
  unfold itemSample
  split
  · next objects all =>
      rw [mapM_members?_eq_some_iff] at all
      have each : ∀ members ∈ objects, (object members).Within keys levels := fun members listed =>
        within _ (all ▸ List.mem_map_of_mem listed)
      obtain ⟨members, others, rfl⟩ : ∃ members others, objects = members :: others :=
        List.exists_cons_of_ne_nil fun none => by simp [none] at all
      obtain ⟨_, rfl, _⟩ := (each members List.mem_cons_self).exists_members
      exact membersWithin_merge each
  · exact within first List.mem_cons_self

theorem Call.Bounded.member (collected : builder.unions = .collect document) {levels : Nat}
    {key name : String} {members : List (String × Json)} {pending : List String}
    (fresh : builder.namer key ∉ pending) (inside : name ∈ builder.memberNames key members)
    (bounded : Call.Bounded builder document depth ⟨levels + 1, key, .object members, pending⟩) :
    Call.Bounded builder document (depth + 1)
      ⟨levels, name, builder.memberSample key members name, builder.namer key :: pending⟩ := by
  obtain ⟨room, within, total⟩ := bounded.room
  constructor
  case atDepth => exact bounded.atDepth.next rfl
  case known => exact mem_keys_of_mem_memberNames collected within inside
  case room =>
    -- An absent member may open its bracket anew. The name that is now pending pays for it.
    refine ⟨room, within_memberSample within, ?_⟩
    simp only [List.length_cons] at total ⊢
    omega
  case distinct => exact List.nodup_cons.mpr ⟨fresh, bounded.distinct⟩
  case opened =>
    exact List.forall_mem_cons.mpr ⟨Finset.mem_image_of_mem _ bounded.known, bounded.opened⟩

theorem Call.Bounded.item {levels : Nat} {key : String} {first : Json} {rest : List Json}
    {pending : List String}
    (bounded : Call.Bounded builder document depth
      ⟨levels + 1, key, .array (first :: rest), pending⟩) :
    Call.Bounded builder document (depth + 1) ⟨levels, key, itemSample first rest, pending⟩ := by
  obtain ⟨room, within, total⟩ := bounded.room
  constructor
  case atDepth => exact bounded.atDepth.next rfl
  case known => exact bounded.known
  case room =>
    cases room with
    | zero => exact within.elim
    | succ room =>
        refine ⟨room, within_itemSample within, ?_⟩
        dsimp only at total ⊢
        omega
  case distinct => exact bounded.distinct
  case opened => exact bounded.opened

end Bound

end Builder

namespace Assembler

open Builder

/-- The same assembler with another ceiling. -/
def withMaxDepth (assembler : Assembler) (maxDepth : Nat) : Assembler :=
  { assembler with options := assembler.options.withMaxDepth maxDepth }

@[simp] theorem maxDepth_withMaxDepth (assembler : Assembler) (maxDepth : Nat) :
    (assembler.withMaxDepth maxDepth).options.maxDepth = maxDepth := rfl

@[simp] theorem withMaxDepth_withMaxDepth (assembler : Assembler) (first second : Nat) :
    (assembler.withMaxDepth first).withMaxDepth second = assembler.withMaxDepth second := rfl

variable {assembler : Assembler} {document : Json}

/-- The calls for the root have the whole document before them. -/
theorem bounded_of_rootCalls {call : Call} (made : assembler.rootCalls document call) :
    call.Bounded (assembler.builder document) document 0 := by
  obtain ⟨member, inside, rfl⟩ := made
  have whole : document.Within document.keys document.nesting :=
    Json.within_of_nesting_le (fun _ => Json.mem_keys_of_occurring) (Nat.le_refl _)
  constructor
  case atDepth => rfl
  case known => exact Json.mem_keys_of_occurring (mem_occurring_of_mem_rootMembers inside)
  case room =>
    refine ⟨document.nesting, ?_, Nat.le_of_eq (Nat.zero_add _)⟩
    cases document with
    | object members => exact (whole member inside).2.succ
    | _ => cases inside
  case distinct => exact List.nodup_nil
  case opened => exact List.forall_mem_nil _

/-- No call of a build is made deeper than there are keys and open brackets. -/
theorem exists_depth_le_of_mem_calls {call : Call} (made : call ∈ assembler.calls document) :
    ∃ depth ≤ document.keys.card + document.nesting,
      call.AtDepth assembler.options.maxDepth depth := by
  obtain ⟨depth, bounded⟩ := assembler.forall_mem_calls document
    (fun call => ∃ depth, call.Bounded (assembler.builder document) document depth)
    (fun fresh inside ⟨depth, bounded⟩ => ⟨depth + 1, bounded.member rfl fresh inside⟩)
    (fun ⟨depth, bounded⟩ => ⟨depth + 1, bounded.item⟩)
    (fun _ root => ⟨0, bounded_of_rootCalls root⟩) call made
  exact ⟨depth, bounded.depth_le, bounded.atDepth⟩

/-- A ceiling that no call reaches can be raised. -/
theorem build_withMaxDepth_add
    (deep : document.keys.card + document.nesting ≤ assembler.options.maxDepth) (more : Nat) :
    (assembler.withMaxDepth (assembler.options.maxDepth + more)).build document =
      assembler.build document := by
  have left : ∀ call ∈ assembler.calls document, 0 < call.levels := by
    intro call made
    obtain ⟨depth, shallow, ceiling⟩ := exists_depth_le_of_mem_calls made
    rw [Call.AtDepth] at ceiling
    omega
  have higher : ((assembler.withMaxDepth (assembler.options.maxDepth + more)).builder
      document).fieldAt 0 =
      (assembler.builder document).fieldWithin (assembler.options.maxDepth + 1 + more) := by
    rw [Nat.add_right_comm]
    exact (assembler.builder document).fieldWithin_withMaxDepth _ _
  have same := addFields_eq_of_left
    (fun _ _ _ => (assembler.builder document).fieldWithin_add more)
    (.empty assembler.options.rootTypeName) left
  rw [build, higher, ← tracedBuild_fst]
  exact congrArg (fun built : ObjectType × TypeCache =>
    Schema.mk (built.1.orFallback assembler.options.fallbackField) built.2.types) same

theorem assemble_withMaxDepth_add
    (deep : document.keys.card + document.nesting ≤ assembler.options.maxDepth) (more : Nat) :
    (assembler.withMaxDepth (assembler.options.maxDepth + more)).assemble document =
      assembler.assemble document := by
  rw [assemble, assemble, build_withMaxDepth_add deep]
  rfl

/-- The keys and the nesting of a document bound the depth of its build. However high the ceiling
is, no call is made deeper, and every ceiling from there on gives the same result. -/
theorem exists_depth_bound (assembler : Assembler) (document : Json) :
    ∃ bound ≤ (document.keys.card + 1) * (document.nesting + 1), ∀ maxDepth,
      (∀ call ∈ (assembler.withMaxDepth maxDepth).calls document,
        ∃ depth ≤ bound, call.AtDepth maxDepth depth) ∧
      (bound ≤ maxDepth → (assembler.withMaxDepth maxDepth).assemble document =
        (assembler.withMaxDepth bound).assemble document) := by
  refine ⟨document.keys.card + document.nesting, ?_, fun maxDepth => ⟨?_, ?_⟩⟩
  · calc document.keys.card + document.nesting
        ≤ document.keys.card * (document.nesting + 1) + (document.nesting + 1) :=
          Nat.add_le_add (Nat.le_mul_of_pos_right _ (Nat.succ_pos _)) (Nat.le_succ _)
      _ = (document.keys.card + 1) * (document.nesting + 1) := (Nat.succ_mul _ _).symm
  · exact fun _ made => exists_depth_le_of_mem_calls made
  · intro deep
    obtain ⟨more, rfl⟩ := Nat.exists_eq_add_of_le deep
    have raised := assemble_withMaxDepth_add (Nat.le_of_eq
      (assembler.maxDepth_withMaxDepth (document.keys.card + document.nesting)).symm) more
    rwa [maxDepth_withMaxDepth, withMaxDepth_withMaxDepth] at raised

end Assembler

end SchemaInference
