/-
This file follows the cache of one builder through any number of requests.
-/

import SchemaInference.Proofs.Inference.Growth

namespace SchemaInference

/-- A request asks for the field of a key at a depth. The members of an object or the items of an
array may be given themselves, and then the depth is not compared with the ceiling. -/
inductive Builder.Request where
  | field (depth : Nat) (key : String) (sample : Json)
  | object (depth : Nat) (key : String) (members : List (String × Json))
  | list (depth : Nat) (key : String) (items : List Json)

namespace Builder

/-- The field of a request, with the cache that it leaves. -/
def answer (builder : Builder) (cache : TypeCache) : Request → Field × TypeCache
  | .field depth key sample => builder.fieldAt depth key sample cache
  | .object depth key members => builder.objectFieldAt depth key members cache
  | .list depth key items => builder.listFieldAt depth key items cache

/-- The fields that a builder has returned, the last one first, and its cache. -/
structure Progress where
  fields : List Field
  cache : TypeCache

def Progress.start : Progress :=
  ⟨[], .empty⟩

def step (builder : Builder) (progress : Progress) (request : Request) : Progress :=
  let (field, cache) := builder.answer progress.cache request
  ⟨field :: progress.fields, cache⟩

def run (builder : Builder) (requests : List Request) : Progress :=
  requests.foldl builder.step .start

/-- The call that a request makes. -/
def Request.call (builder : Builder) (pending : List String) : Request → Call
  | field depth key sample => ⟨builder.levelsAt depth, key, sample, pending⟩
  | object depth key members => ⟨builder.levelsAt (depth + 1) + 1, key, .object members, pending⟩
  | list depth key items => ⟨builder.levelsAt (depth + 1) + 1, key, .array items, pending⟩

/-- A direct request for an object or an array is a build with a level for it. -/
theorem answer_eq (builder : Builder) (cache : TypeCache) (request : Request) :
    let call := request.call builder cache.pending
    builder.answer cache request = builder.fieldWithin call.levels call.key call.sample cache := by
  cases request <;> rfl

theorem answer_fst (builder : Builder) (cache : TypeCache) (request : Request) :
    (builder.answer cache request).1 = builder.callField (request.call builder cache.pending) := by
  rw [answer_eq]
  exact builder.fieldWithin_fst _ _ _ cache

theorem answer_grows (builder : Builder) (cache : TypeCache) (request : Request) :
    builder.Grows (· = request.call builder cache.pending) cache
      (builder.answer cache request).2 := by
  rw [answer_eq]
  cases request <;> exact builder.fieldWithin_grows _ _ _ cache

/-- No name is pending between the requests, and every type that the returned fields or the stored
types refer to is stored, each under its own name. -/
structure Progress.Sound (progress : Progress) : Prop where
  settled : progress.cache.pending = []
  contains_iff : ∀ name, progress.cache.contains name = true ↔
    (progress.cache.types.get? name).isSome
  named : ∀ name object, progress.cache.types.get? name = some object → object.name = name
  returned : ∀ field ∈ progress.fields, ∀ name, field.type.compositeName? = some name →
    (progress.cache.types.get? name).isSome
  closed : ∀ name object other, progress.cache.types.get? name = some object →
    object.Refers other → (progress.cache.types.get? other).isSome

theorem Progress.sound_start : Progress.start.Sound where
  settled := rfl
  contains_iff := by simp [start, TypeCache.contains, TypeCache.empty, Dict.contains]
  named := nofun
  returned := nofun
  closed := nofun

/-- A request keeps the stored types as they are. -/
theorem step_keeps (builder : Builder) (progress : Progress) (request : Request) {name : String}
    {object : ObjectType} (stored : progress.cache.types.get? name = some object) :
    (builder.step progress request).cache.types.get? name = some object :=
  (builder.answer_grows progress.cache request).kept stored

theorem Progress.Sound.step {builder : Builder} {progress : Progress} (sound : progress.Sound)
    (request : Request) : (builder.step progress request).Sound := by
  have grows := builder.answer_grows progress.cache request
  have settled : (builder.step progress request).cache.pending = [] :=
    grows.pending_eq.trans sound.settled
  have contains_iff : ∀ name, (builder.step progress request).cache.contains name = true ↔
      ((builder.step progress request).cache.types.get? name).isSome := by
    intro name
    rw [TypeCache.contains_iff, settled]
    exact or_iff_left List.not_mem_nil
  have kept : ∀ name, (progress.cache.types.get? name).isSome →
      ((builder.step progress request).cache.types.get? name).isSome := by
    intro name built
    obtain ⟨object, stored⟩ := Option.isSome_iff_exists.mp built
    exact Option.isSome_iff_exists.mpr ⟨object, builder.step_keeps progress request stored⟩
  refine ⟨settled, contains_iff, ?named, ?returned, ?closed⟩
  case named =>
    intro name object stored
    rcases grows.origin stored with older | ⟨_, named, _⟩
    · exact sound.named name object older
    · exact named
  case returned =>
    intro field listed name refers
    have either : field = (builder.answer progress.cache request).1 ∨ field ∈ progress.fields :=
      List.mem_cons.mp listed
    rcases either with same | earlier
    · rw [same, answer_fst] at refers
      exact (contains_iff name).mp (grows.present rfl refers)
    · exact kept name (sound.returned field earlier name refers)
  case closed =>
    intro name object other stored refers
    rcases grows.origin stored with older | ⟨unknown, _⟩
    · exact kept other (sound.closed name object other older refers)
    · have absent := (TypeCache.not_contains_iff.mp unknown).1
      exact (contains_iff other).mp (grows.closed stored absent refers)

theorem Progress.Sound.foldl {builder : Builder} {progress : Progress} (sound : progress.Sound)
    (requests : List Request) : (requests.foldl builder.step progress).Sound := by
  induction requests generalizing progress with
  | nil => exact sound
  | cons request rest inductionHypothesis => exact inductionHypothesis (sound.step request)

theorem foldl_keeps (builder : Builder) (requests : List Request) {progress : Progress}
    {name : String} {object : ObjectType}
    (stored : progress.cache.types.get? name = some object) :
    (requests.foldl builder.step progress).cache.types.get? name = some object := by
  induction requests generalizing progress with
  | nil => exact stored
  | cons request rest inductionHypothesis =>
      exact inductionHypothesis (builder.step_keeps progress request stored)

/-- Whatever is requested of one builder, its cache is sound after each request, and a stored type
never changes again. -/
theorem run_sound (builder : Builder) (earlier later : List Request) :
    (builder.run (earlier ++ later)).Sound ∧
      ∀ name object, (builder.run earlier).cache.types.get? name = some object →
        (builder.run (earlier ++ later)).cache.types.get? name = some object := by
  refine ⟨Progress.sound_start.foldl _, fun name object stored => ?_⟩
  rw [run, List.foldl_append]
  exact builder.foldl_keeps later stored

/-- All keys share one name. The first object above the ceiling gives the type, and a key inside
itself refers back to it. -/
example :
    let builder : Builder := ⟨{ Options.standard with maxDepth := 0 }, fun _ => "Shared", .empty⟩
    let progress := builder.run [.object 5 "a" [("a", .object [])],
      .list 0 "b" [.object [("c", .object [])]], .field 1 "d" (.object [])]
    progress.fields = [.scalar "d" .string, .list "b" (.scalar .string), .object "a" "Shared"] ∧
      progress.cache.types.get? "Shared" =
        some ((ObjectType.empty "Shared").addField (.scalar "a" .string)) := by
  decide

end Builder

end SchemaInference
