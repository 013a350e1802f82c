/-
This file shows which objects of a settled document are located as objects in its schema.
-/

import SchemaInference.Proofs.Inference.Ceiling
import SchemaInference.Proofs.Resolved
import SchemaInference.Proofs.Schema.Walk

namespace SchemaInference

namespace Assembler

open Builder Json

variable {assembler : Assembler} {document : Json}

/-- The stored type of a key has the field of a sound call for every member that occurs under the
key. The call has the levels that the type leaves for its members. -/
theorem Built.field?_of_occurring (settled : document.Settled) {key name : String} {levels : Nat}
    {samples members : List (String × Json)} {pending : List String} {value : Json}
    (built : assembler.Built document key levels samples pending)
    (outer : (key, .object members) ∈ document.occurring) (inside : (name, value) ∈ members) :
    ∃ call : Call, call.key = name ∧ call.levels = levels ∧
      call.Sound (assembler.builder document) document ∧
      ((assembler.builder document).sampledType levels key samples).field? name =
        some ((assembler.builder document).callField call) := by
  have own : name ∈ (assembler.builder document).memberNames key samples := by
    refine mem_memberNames_iff.mpr (Or.inr (Unions.holds_collect_iff.mpr ⟨members, outer, ?_⟩))
    exact List.mem_map.mpr ⟨_, inside, rfl⟩
  have nested := (built.sound settled).nested settled rfl (.member built.fresh built.stored own)
  exact ⟨_, rfl, rfl, nested, field?_sampledType_of_mem levels own⟩

/-- A walk covers the members of a value when it has reached a type with the field of a sound call
for each of them. The calls have a level left. -/
def Covers (assembler : Assembler) (document : Json) (current : Option Located)
    (members : List (String × Json)) : Prop :=
  ∃ container, (assembler.build document).container? current = some container ∧
    ∀ name value, (name, value) ∈ members → ∃ call : Call, call.key = name ∧ 0 < call.levels ∧
      call.Sound (assembler.builder document) document ∧
      container.field? name = some ((assembler.builder document).callField call)

theorem covers_root {members : List (String × Json)} :
    assembler.Covers (.object members) none members := by
  refine ⟨_, rfl, fun name value inside => ?_⟩
  obtain ⟨last, member, present⟩ :=
    @root_field?_of_mem assembler (.object members) name value inside
  exact ⟨⟨_, name, last, []⟩, rfl, Nat.succ_pos _, sound_of_rootCalls ⟨_, member, rfl⟩, present⟩

/-- A walk to the field of a sound call on an object reaches the stored type of its key. -/
theorem container?_of_walk? (checked : (assembler.build document).Checked assembler.options)
    (settled : document.Settled) {path : Path} {call : Call}
    (sound : call.Sound (assembler.builder document) document) (left : 0 < call.levels)
    (walked : (assembler.build document).walk? path =
      some (some (.ofField ((assembler.builder document).callField call))))
    {members : List (String × Json)} (occurs : (call.key, .object members) ∈ document.occurring) :
    ∃ object, (assembler.build document).types.get? (assembler.namer call.key) = some object ∧
      (assembler.build document).container?
        (some (.ofField ((assembler.builder document).callField call))) = some object := by
  have type : ((assembler.builder document).callField call).type =
      .object (assembler.namer call.key) := sound.type_eq_of_levels settled left occurs
  obtain ⟨_, _, _, _, trace⟩ := Schema.exists_trace build_consistent walked
  obtain ⟨referrer, inside, found⟩ := trace.stored
  have composite : ((assembler.builder document).callField call).type.compositeName? =
      some (assembler.namer call.key) := congrArg TypeRef.compositeName? type
  obtain ⟨object, stored⟩ := Option.isSome_iff_exists.mp
    (types_contains_of_objectTypes inside ⟨_, _, found, composite⟩)
  refine ⟨object, stored, ?_⟩
  show ((assembler.builder document).callField call).type.objectName?.bind _ = _
  rw [type]
  exact objectType?_of_stored checked stored

/-- A walk to the field of a sound call covers every object of its key, unless the type of the key
is built at the ceiling. -/
theorem covers_of_walk? (injective : Function.Injective assembler.namer)
    (checked : (assembler.build document).Checked assembler.options) (settled : document.Settled)
    {path : Path} {call : Call} (sound : call.Sound (assembler.builder document) document)
    (left : 0 < call.levels) (clear : ¬ assembler.BuiltAtCeiling document call.key)
    (walked : (assembler.build document).walk? path =
      some (some (.ofField ((assembler.builder document).callField call))))
    {members : List (String × Json)}
    (occurs : (call.key, .object members) ∈ document.occurring) :
    assembler.Covers document (some (.ofField ((assembler.builder document).callField call)))
      members := by
  obtain ⟨object, stored, reached⟩ := container?_of_walk? checked settled sound left walked occurs
  obtain ⟨levels, samples, pending, built, rfl⟩ := exists_built injective stored
  have positive : 0 < levels := Nat.pos_of_ne_zero fun zero =>
    clear ⟨samples, pending, zero ▸ built⟩
  refine ⟨_, reached, fun name value inside => ?_⟩
  obtain ⟨inner, named, rfl, innerSound, present⟩ :=
    built.field?_of_occurring settled occurs inside
  exact ⟨inner, named, positive, innerSound, present⟩

/-- A path of names to a value walks to the field of a sound call for the last name, when no type
before that is built at the ceiling. -/
theorem exists_call_of_clear (injective : Function.Injective assembler.namer)
    (checked : (assembler.build document).Checked assembler.options) (settled : document.Settled)
    {names : List String} {value : Json}
    (found : document.at? (names.map .field) = some value) (nonempty : names ≠ [])
    (clear : ∀ name ∈ names.dropLast, ¬ assembler.BuiltAtCeiling document name) :
    ∃ call : Call, call.Sound (assembler.builder document) document ∧ 0 < call.levels ∧
      names.getLast? = some call.key ∧ (call.key, value) ∈ document.occurring ∧
      (assembler.build document).walk? (names.map .field) =
        some (some (.ofField ((assembler.builder document).callField call))) := by
  induction names using List.reverseRecOn generalizing value with
  | nil => exact absurd rfl nonempty
  | append_singleton names name inductionHypothesis =>
      rw [List.dropLast_concat] at clear
      rw [List.map_append, List.map_cons, List.map_nil, at?_concat] at found
      rw [List.map_append, List.map_cons, List.map_nil, Schema.walk?_concat]
      obtain ⟨parent, outer, stepped⟩ := Option.bind_eq_some_iff.mp found
      cases parent with
      | object members =>
          rw [step?_object, Segment.name_field] at stepped
          have inside := Entries.mem_of_lookup stepped
          have covered : ∃ current, (assembler.build document).walk? (names.map .field) =
              some current ∧ assembler.Covers document current members ∧
              (name, value) ∈ document.occurring := by
            by_cases first : names = []
            · subst first
              obtain rfl : document = .object members := Option.some.inj outer
              exact ⟨none, rfl, covers_root, mem_occurring_of_mem inside⟩
            · obtain ⟨call, sound, left, last, occurs, walked⟩ := inductionHypothesis outer first
                fun other listed => clear other (List.mem_of_mem_dropLast listed)
              have open_ := clear call.key (List.mem_of_getLast? last)
              exact ⟨_, walked,
                covers_of_walk? injective checked settled sound left open_ walked occurs,
                mem_occurring_member occurs inside⟩
          obtain ⟨current, walked, ⟨container, reached, fields⟩, occurs⟩ := covered
          obtain ⟨call, rfl, left, sound, present⟩ := fields name value inside
          refine ⟨call, sound, left, List.getLast?_concat, occurs, ?_⟩
          have advanced : (assembler.build document).advance? current (.field call.key) =
              some (.ofField ((assembler.builder document).callField call)) :=
            Schema.advance?_eq_some_iff.mpr (Or.inr ⟨container, _, reached,
              (Segment.name_field call.key).symm ▸ present, rfl⟩)
          rw [walked, Option.bind_some, advanced]
          rfl
      | array | null | boolean | number | string => cases stepped

/-- Every field of a type that is built at the ceiling is a scalar. -/
theorem BuiltAtCeiling.objectName?_eq_none {key name : String} {object : ObjectType} {field : Field}
    (built : assembler.BuiltAtCeiling document key)
    (stored : (assembler.build document).types.get? (assembler.namer key) = some object)
    (present : object.field? name = some field) : field.type.objectName? = none := by
  obtain ⟨members, pending, built⟩ := built
  obtain rfl := Option.some.inj (built.stored.symm.trans stored)
  rcases field?_sampledType.mp present with ⟨_, rfl⟩ | ⟨_, _, rfl⟩ <;> rfl

/-- A path of names to an object is located at a composite type only when no type before the last
name is built at the ceiling. -/
theorem clear_of_walk? (injective : Function.Injective assembler.namer)
    (checked : (assembler.build document).Checked assembler.options) (settled : document.Settled)
    {names : List String} {value : Json} (found : document.at? (names.map .field) = some value)
    {located : Located} {typeName : String}
    (walked : (assembler.build document).walk? (names.map .field) = some (some located))
    (composite : located.type.objectName? = some typeName) :
    ∀ name ∈ names.dropLast, ¬ assembler.BuiltAtCeiling document name := by
  induction names using List.reverseRecOn generalizing value located typeName with
  | nil => simp
  | append_singleton names name inductionHypothesis =>
      rw [List.dropLast_concat]
      by_cases first : names = []
      · simp [first]
      rw [List.map_append, List.map_cons, List.map_nil, at?_concat] at found
      rw [List.map_append, List.map_cons, List.map_nil, Schema.walk?_concat] at walked
      obtain ⟨parent, outer, stepped⟩ := Option.bind_eq_some_iff.mp found
      obtain ⟨current, outerWalked, walked⟩ := Option.bind_eq_some_iff.mp walked
      obtain ⟨_, advanced, same⟩ := Option.map_eq_some_iff.mp walked
      obtain rfl := Option.some.inj same
      rcases Schema.advance?_eq_some_iff.mp advanced with
        ⟨_, _, _, _, _, index, _⟩ | ⟨container, field, reached, selected, rfl⟩
      · cases index
      cases current with
      | none => exact absurd (List.map_eq_nil_iff.mp (Schema.eq_nil_of_walk? outerWalked)) first
      | some middle =>
          obtain ⟨_, middleComposite, _⟩ := Option.bind_eq_some_iff.mp reached
          have clear := inductionHypothesis outer outerWalked middleComposite
          obtain ⟨call, sound, left, last, occurs, callWalked⟩ :=
            exists_call_of_clear injective checked settled outer first clear
          obtain rfl : middle = _ :=
            Option.some.inj (Option.some.inj (outerWalked.symm.trans callWalked))
          cases parent with
          | object members =>
              obtain ⟨object, stored, callReached⟩ :=
                container?_of_walk? checked settled sound left callWalked occurs
              obtain rfl := Option.some.inj (callReached.symm.trans reached)
              have clearLast : ¬ assembler.BuiltAtCeiling document call.key := by
                intro built
                have scalar := built.objectName?_eq_none stored selected
                exact Option.some_ne_none typeName (composite.symm.trans scalar)
              intro other listed
              rw [← List.dropLast_append_getLast? _ last] at listed
              rcases List.mem_append.mp listed with before | final
              · exact clear other before
              · exact List.mem_singleton.mp final ▸ clearLast
          | array | null | boolean | number | string => cases stepped

/-- A path of names to an object is located at a composite type exactly when no type before the last
name is built at the ceiling. A key with such a type is the innermost of different keys that hold
objects inside one another, one more than the ceiling has levels. -/
theorem locate_object_iff (options : Options) (suffix : String) (document : Json) (schema : Schema)
    (assembled : (Assembler.mk options (.withSuffix suffix)).assemble document = .ok schema)
    (settled : document.Settled) (names : List String) (nonempty : names ≠ [])
    (members : List (String × Json))
    (found : document.at? (names.map .field) = some (.object members)) :
    ((∃ located typeName, schema.locate (names.map .field) = .ok located ∧
        located.type = .object typeName) ↔
      ∀ name ∈ names.dropLast,
        ¬ (Assembler.mk options (.withSuffix suffix)).BuiltAtCeiling document name) ∧
    ∀ name, (Assembler.mk options (.withSuffix suffix)).BuiltAtCeiling document name →
      ∃ outers, document.Chain (name :: outers) ∧ (name :: outers).Nodup ∧
        outers.length = options.maxDepth := by
  obtain ⟨rfl, checked⟩ := assemble_eq_ok_iff.mp assembled
  have injective := Namer.withSuffix_injective suffix
  constructor
  · constructor
    · rintro ⟨located, typeName, found', composite⟩
      exact clear_of_walk? injective checked settled found (Schema.locate_eq_ok_iff.mp found')
        (congrArg TypeRef.objectName? composite)
    · intro clear
      obtain ⟨call, sound, left, _, occurs, walked⟩ :=
        exists_call_of_clear injective checked settled found nonempty clear
      exact ⟨_, _, Schema.locate_eq_ok_iff.mpr walked,
        sound.type_eq_of_levels settled left occurs⟩
  · rintro name ⟨samples, pending, built⟩
    obtain ⟨outers, chain, distinct, total⟩ := built.exists_chain settled
    exact ⟨outers, chain, distinct, (Nat.zero_add _).symm.trans total⟩

/-- The key `k` holds an object in the root and, one level deeper, in `a`. -/
def sharedDocument : Json :=
  .object [("a", .object [("k", .object [("m", .object [])])]), ("k", .object [("m", .object [])])]

theorem settled_sharedDocument : sharedDocument.Settled := by
  have members : sharedDocument.occurring =
      [("a", .object [("k", .object [("m", .object [])])]), ("k", .object [("m", .object [])]),
        ("m", .object []), ("k", .object [("m", .object [])]), ("m", .object [])] := rfl
  refine fun key => Or.inl fun value inside => ?_
  simp only [members, List.mem_cons, Prod.mk.injEq, List.not_mem_nil, or_false] at inside
  rcases inside with ⟨_, rfl⟩ | ⟨_, rfl⟩ | ⟨_, rfl⟩ | ⟨_, rfl⟩ | ⟨_, rfl⟩ <;> rfl

/-- This assembler builds with one level below the root. -/
def shallowAssembler : Assembler :=
  ⟨{ Options.standard with maxDepth := 1 }, .withSuffix "Object"⟩

/-- The type of `k` is built at the ceiling, inside the type of `a`. -/
theorem locate_object_iff_shared :
    shallowAssembler.assemble sharedDocument = .ok (shallowAssembler.build sharedDocument) ∧
      sharedDocument.Settled ∧
      sharedDocument.at? [.field "a", .field "k"] = some (.object [("m", .object [])]) ∧
      sharedDocument.at? [.field "k", .field "m"] = some (.object []) ∧
      ¬ shallowAssembler.BuiltAtCeiling sharedDocument "a" ∧
      shallowAssembler.BuiltAtCeiling sharedDocument "k" := by
  refine ⟨rfl, settled_sharedDocument, rfl, rfl, ?_, ?_⟩
  · exact (locate_object_iff { Options.standard with maxDepth := 1 } "Object" sharedDocument _ rfl
      settled_sharedDocument ["a", "k"] (by decide) _ rfl).1.mp ⟨_, _, rfl, rfl⟩ "a" (by simp)
  · by_contra clear
    obtain ⟨located, typeName, found, composite⟩ :=
      (locate_object_iff { Options.standard with maxDepth := 1 } "Object" sharedDocument _ rfl
        settled_sharedDocument ["k", "m"] (by decide) _ rfl).1.mpr fun name listed =>
          List.mem_singleton.mp listed ▸ clear
    obtain rfl : Located.ofField (.scalar "m" .string) = located := Except.ok.inj found
    cases composite

/-- The object at `k.m` is no deeper than the ceiling, but it is located as a text. -/
theorem shallow_object_is_text :
    sharedDocument.Settled ∧
      shallowAssembler.assemble sharedDocument = .ok (shallowAssembler.build sharedDocument) ∧
      sharedDocument.at? (["k", "m"].map .field) = some (.object []) ∧
      ["k", "m"].length ≤ shallowAssembler.options.maxDepth + 1 ∧
      (shallowAssembler.build sharedDocument).locate (["k", "m"].map .field) =
        .ok (.ofField (.scalar "m" .string)) :=
  ⟨settled_sharedDocument, rfl, rfl, Nat.le_refl 2, rfl⟩

end Assembler

end SchemaInference
