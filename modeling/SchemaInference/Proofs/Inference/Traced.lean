/-
This file builds a schema and keeps the calls that the build makes. Without the calls the result is
that of the builder.
-/

import SchemaInference.Proofs.Inference.Assembled

namespace SchemaInference

namespace Builder

/-- A traced build also gives the calls that it makes, in the order in which they are made. -/
abbrev TracedBuild := String → Json → TypeCache → (Field × TypeCache) × List Call

/-- The calls for a sample stand before those for the later samples. -/
def tracedFields (build : TracedBuild) :
    List (String × Json) → ObjectType → TypeCache → (ObjectType × TypeCache) × List Call
  | [], object, cache => ((object, cache), [])
  | (key, sample) :: rest, object, cache =>
      let ((field, cache), calls) := build key sample cache
      let (built, later) := tracedFields build rest (object.addField field) cache
      (built, calls ++ later)

def tracedObject (builder : Builder) (build : TracedBuild) (key : String)
    (members : List (String × Json)) (cache : TypeCache) : (Field × TypeCache) × List Call :=
  let name := builder.namer key
  if cache.contains name then ((.object key name, cache), [])
  else
    let ((object, cache), calls) := tracedFields build (builder.memberSamples key members)
      (.empty name) (cache.reserve name)
    ((.object key name, cache.insert (object.orFallback builder.options.fallbackField)), calls)

def tracedList (build : TracedBuild) (key : String) (items : List Json) (cache : TypeCache) :
    (Field × TypeCache) × List Call :=
  match items with
  | [] => ((.list key (.scalar .string), cache), [])
  | first :: rest =>
      let ((field, cache), calls) := build key (itemSample first rest) cache
      ((.list key field.type, cache), calls)

/-- The call itself stands before the calls inside it. -/
def tracedWithin (builder : Builder) : Nat → TracedBuild
  | 0, key, sample, cache => ((.scalar key .string, cache), [⟨0, key, sample, cache.pending⟩])
  | levels + 1, key, sample, cache =>
      let (built, calls) := match sample with
        | .object members => builder.tracedObject (builder.tracedWithin levels) key members cache
        | .array items => tracedList (builder.tracedWithin levels) key items cache
        | _ => ((.scalar key (.of sample), cache), [])
      (built, ⟨levels + 1, key, sample, cache.pending⟩ :: calls)

section Erasure

variable {build : Build} {traced : TracedBuild}
  (erased : ∀ key sample cache, (traced key sample cache).1 = build key sample cache)

include erased

theorem tracedFields_fst (samples : List (String × Json)) (object : ObjectType)
    (cache : TypeCache) :
    (tracedFields traced samples object cache).1 = addFields build samples object cache := by
  induction samples generalizing object cache with
  | nil => rfl
  | cons entry rest inductionHypothesis =>
      obtain ⟨key, sample⟩ := entry
      rw [addFields, List.foldl_cons]
      dsimp only
      rw [← erased]
      exact inductionHypothesis _ _

theorem tracedObject_fst (builder : Builder) (key : String) (members : List (String × Json))
    (cache : TypeCache) :
    (builder.tracedObject traced key members cache).1 =
      builder.objectField build key members cache := by
  rw [tracedObject, objectField, ← tracedFields_fst erased]
  dsimp only
  split <;> rfl

theorem tracedList_fst (key : String) (items : List Json) (cache : TypeCache) :
    (tracedList traced key items cache).1 = listField build key items cache := by
  cases items with
  | nil => rfl
  | cons first rest =>
      rw [listField, ← erased]
      rfl

end Erasure

/-- The trace changes nothing of the field and of the cache. -/
theorem tracedWithin_fst (builder : Builder) (levels : Nat) (key : String) (sample : Json)
    (cache : TypeCache) :
    (builder.tracedWithin levels key sample cache).1 =
      builder.fieldWithin levels key sample cache := by
  induction levels generalizing key sample cache with
  | zero => rfl
  | succ levels inductionHypothesis =>
      cases sample with
      | object members => exact tracedObject_fst inductionHypothesis builder key members cache
      | array items => exact tracedList_fst inductionHypothesis key items cache
      | _ => rfl

theorem pending_tracedWithin (builder : Builder) (levels : Nat) (key : String) (sample : Json)
    (cache : TypeCache) :
    (builder.tracedWithin levels key sample cache).1.2.pending = cache.pending := by
  rw [tracedWithin_fst, pending_fieldWithin]

section Run

variable {traced : TracedBuild} {builder : Builder} {holds : Call → Prop}

/-- What each sample keeps holds at all the calls for samples. -/
theorem forall_mem_tracedFields {levels : Nat}
    (steady : ∀ key sample cache, (traced key sample cache).1.2.pending = cache.pending)
    (each : ∀ key sample cache, holds ⟨levels, key, sample, cache.pending⟩ →
      ∀ call ∈ (traced key sample cache).2, holds call)
    {samples : List (String × Json)} {object : ObjectType} {cache : TypeCache}
    (start : ∀ call, SampleCalls levels samples cache.pending call → holds call) :
    ∀ call ∈ (tracedFields traced samples object cache).2, holds call := by
  induction samples generalizing object cache with
  | nil => exact List.forall_mem_nil _
  | cons entry rest inductionHypothesis =>
      obtain ⟨key, sample⟩ := entry
      rw [tracedFields, List.forall_mem_append]
      constructor
      · exact each key sample cache (start _ ⟨_, List.mem_cons_self, rfl⟩)
      · refine inductionHypothesis ?_
        rw [steady]
        rintro call ⟨other, later, rfl⟩
        exact start _ ⟨other, List.mem_cons_of_mem _ later, rfl⟩

/-- What every step to a member or to the items of an array keeps holds at all the calls inside a
call. -/
theorem forall_mem_tracedWithin
    (member : ∀ {levels key members name pending}, builder.namer key ∉ pending →
      name ∈ builder.memberNames key members →
      holds ⟨levels + 1, key, .object members, pending⟩ →
      holds ⟨levels, name, builder.memberSample key members name, builder.namer key :: pending⟩)
    (item : ∀ {levels key first rest pending},
      holds ⟨levels + 1, key, .array (first :: rest), pending⟩ →
      holds ⟨levels, key, itemSample first rest, pending⟩)
    {levels : Nat} {key : String} {sample : Json} {cache : TypeCache}
    (start : holds ⟨levels, key, sample, cache.pending⟩) :
    ∀ call ∈ (builder.tracedWithin levels key sample cache).2, holds call := by
  induction levels generalizing key sample cache with
  | zero => exact List.forall_mem_singleton.mpr start
  | succ levels inductionHypothesis =>
      refine List.forall_mem_cons.mpr ⟨start, ?_⟩
      cases sample with
      | object members =>
          dsimp only
          rw [tracedObject]
          dsimp only
          split
          · exact List.forall_mem_nil _
          · next unknown =>
              have fresh := (TypeCache.not_contains_iff.mp (eq_false_of_ne_true unknown)).2
              refine forall_mem_tracedFields (builder.pending_tracedWithin levels)
                (fun _ _ _ => inductionHypothesis) ?_
              rintro call ⟨⟨name, sample⟩, inside, rfl⟩
              obtain ⟨listed, rfl⟩ := mem_memberSamples_iff.mp inside
              exact member fresh listed start
      | array items =>
          cases items with
          | nil => exact List.forall_mem_nil _
          | cons first rest => exact inductionHypothesis (item start)
      | _ => exact List.forall_mem_nil _

end Run

/-- A build that gives the same as a traced one wherever no level is used up adds the same fields
when none is used up for any sample. -/
theorem addFields_eq_of_left {other : Build} {traced : TracedBuild}
    (agree : ∀ key sample cache, (∀ call ∈ (traced key sample cache).2, 0 < call.levels) →
      other key sample cache = (traced key sample cache).1)
    {samples : List (String × Json)} (object : ObjectType) {cache : TypeCache}
    (left : ∀ call ∈ (tracedFields traced samples object cache).2, 0 < call.levels) :
    addFields other samples object cache = (tracedFields traced samples object cache).1 := by
  induction samples generalizing object cache with
  | nil => rfl
  | cons entry rest inductionHypothesis =>
      obtain ⟨key, sample⟩ := entry
      rw [tracedFields, List.forall_mem_append] at left
      have first := agree key sample cache left.1
      have later := inductionHypothesis (object.addField (traced key sample cache).1.1) left.2
      rw [addFields, List.foldl_cons]
      dsimp only
      rw [first]
      exact later

/-- More levels change nothing when no call inside uses up the last one. -/
theorem fieldWithin_add (builder : Builder) (more : Nat) {levels : Nat} {key : String}
    {sample : Json} {cache : TypeCache}
    (left : ∀ call ∈ (builder.tracedWithin levels key sample cache).2, 0 < call.levels) :
    builder.fieldWithin (levels + more) key sample cache =
      (builder.tracedWithin levels key sample cache).1 := by
  induction levels generalizing key sample cache with
  | zero => exact absurd (left _ List.mem_cons_self) (Nat.lt_irrefl 0)
  | succ levels inductionHypothesis =>
      rw [Nat.add_right_comm]
      have inner := (List.forall_mem_cons.mp left).2
      cases sample with
      | object members =>
          rw [fieldWithin, tracedWithin, objectField]
          dsimp only at inner ⊢
          rw [tracedObject] at inner ⊢
          dsimp only at inner ⊢
          split
          · rfl
          · next unknown =>
              rw [if_neg unknown] at inner
              rw [addFields_eq_of_left (fun _ _ _ => inductionHypothesis) _ inner]
      | array items =>
          cases items with
          | nil => rfl
          | cons first rest =>
              rw [fieldWithin, listField, inductionHypothesis inner]
              rfl
      | _ => rfl

end Builder

namespace Assembler

open Builder

/-- The build of a document with the calls that it makes. -/
def tracedBuild (assembler : Assembler) (document : Json) : Schema × List Call :=
  let builder := assembler.builder document
  let ((root, cache), calls) := tracedFields (builder.tracedWithin (builder.levelsAt 0))
    (rootMembers document) (.empty assembler.options.rootTypeName) .empty
  (⟨root.orFallback assembler.options.fallbackField, cache.types⟩, calls)

/-- All the calls of a build, in the order in which they are made. -/
def calls (assembler : Assembler) (document : Json) : List Call :=
  (assembler.tracedBuild document).2

/-- The build with the calls gives the schema of the build. -/
theorem tracedBuild_fst (assembler : Assembler) (document : Json) :
    (assembler.tracedBuild document).1 = assembler.build document := by
  have root := tracedFields_fst
    ((assembler.builder document).tracedWithin_fst ((assembler.builder document).levelsAt 0))
    (rootMembers document) (.empty assembler.options.rootTypeName) .empty
  exact congrArg (fun built : ObjectType × TypeCache =>
    Schema.mk (built.1.orFallback assembler.options.fallbackField) built.2.types) root

/-- What holds for the calls for the root and is kept by every step holds for all the calls. -/
theorem forall_mem_calls (assembler : Assembler) (document : Json) (holds : Call → Prop)
    (member : ∀ {levels key members name pending}, assembler.namer key ∉ pending →
      name ∈ (assembler.builder document).memberNames key members →
      holds ⟨levels + 1, key, .object members, pending⟩ →
      holds ⟨levels, name, (assembler.builder document).memberSample key members name,
        assembler.namer key :: pending⟩)
    (item : ∀ {levels key first rest pending},
      holds ⟨levels + 1, key, .array (first :: rest), pending⟩ →
      holds ⟨levels, key, itemSample first rest, pending⟩)
    (start : ∀ call, assembler.rootCalls document call → holds call) :
    ∀ call ∈ assembler.calls document, holds call :=
  forall_mem_tracedFields ((assembler.builder document).pending_tracedWithin _)
    (fun _ _ _ => forall_mem_tracedWithin member item) start

/-- Each of two keys holds the other, so an absent member is an object and its type is open
already. -/
example : ((ofOptions .standard).calls (.object
    [("a", .object [("b", .object [])]), ("b", .object [("a", .object [])])])).map
    (fun call => (call.levels, call.key)) = [(11, "a"), (10, "b"), (9, "a"), (11, "b")] := by
  decide

end Assembler

end SchemaInference
