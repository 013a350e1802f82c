/-
This file describes where the walk of a path through a schema ends.
-/

import SchemaInference.Proofs.Schema.Consistent
import Mathlib.Data.List.Induction

namespace SchemaInference

namespace Schema

variable {schema : Schema}

theorem walk?_concat (schema : Schema) (path : Path) (segment : Segment) :
    schema.walk? (path ++ [segment]) =
      (schema.walk? path).bind fun current => (schema.advance? current segment).map some := by
  rw [walk?, walk?, List.foldlM_append]
  simp only [List.foldlM_cons, List.foldlM_nil, bind_pure]
  rfl

/-- A walk has selected a field as soon as it has taken a segment. -/
theorem eq_nil_of_walk? {path : Path} (walked : schema.walk? path = some none) : path = [] := by
  induction path using List.reverseRecOn with
  | nil => rfl
  | append_singleton path segment _ =>
      rw [walk?_concat] at walked
      obtain ⟨current, _, advanced⟩ := Option.bind_eq_some_iff.mp walked
      obtain ⟨_, _, same⟩ := Option.map_eq_some_iff.mp advanced
      cases same

theorem locate_eq_ok_iff {path : Path} {located : Located} :
    schema.locate path = .ok located ↔ schema.walk? path = some (some located) := by
  unfold locate
  split <;> simp_all

/-- A failed walk names its path. -/
theorem locate_eq_error_iff {path : Path} {failure : Failure} :
    schema.locate path = .error failure ↔
      (∀ located, schema.walk? path ≠ some (some located)) ∧
        failure = .unknownField (Path.name path) := by
  unfold locate
  split
  · next found => simp [found]
  · next absent =>
      rw [Except.error.injEq, eq_comm]
      exact (and_iff_right absent).symm

/-- A step goes into a list or selects a field of the container. -/
theorem advance?_eq_some_iff {current : Option Located} {segment : Segment} {located : Located} :
    schema.advance? current segment = some located ↔
      (∃ field element indexed position, current = some ⟨field, .list element, indexed⟩ ∧
        segment = .index position ∧ located = ⟨field, element, true⟩) ∨
      ∃ container field, schema.container? current = some container ∧
        container.field? segment.name = some field ∧ located = .ofField field := by
  have select : schema.selectField? current segment = some located ↔
      ∃ container field, schema.container? current = some container ∧
        container.field? segment.name = some field ∧ located = .ofField field := by
    simp only [selectField?, Option.map_eq_some_iff, Option.bind_eq_some_iff]
    constructor
    · rintro ⟨field, ⟨container, inside, selected⟩, rfl⟩
      exact ⟨container, field, inside, selected, rfl⟩
    · rintro ⟨container, field, inside, selected, rfl⟩
      exact ⟨field, ⟨container, inside, selected⟩, rfl⟩
  unfold advance?
  split
  · next field element indexed position =>
      simp [container?, TypeRef.objectName?, eq_comm]
  · next other =>
      rw [select]
      refine (or_iff_right ?_).symm
      rintro ⟨field, element, indexed, position, rfl, rfl, _⟩
      exact other field element indexed position rfl rfl

/-- A walk stays inside the root and the stored types. -/
theorem container?_mem_objectTypes {current : Option Located} {container : ObjectType}
    (found : schema.container? current = some container) : container ∈ schema.objectTypes := by
  cases current with
  | none => exact Option.some.inj found ▸ List.mem_cons_self
  | some located =>
      obtain ⟨name, _, found⟩ := Option.bind_eq_some_iff.mp found
      unfold objectType? at found
      split at found
      · exact Option.some.inj found ▸ List.mem_cons_self
      · exact List.mem_cons_of_mem _ (Dict.mem_values_iff.mpr ⟨name, found⟩)

end Schema

theorem TypeRef.unwrap?_succ {levels : Nat} {type element : TypeRef}
    (unwrapped : type.unwrap? levels = some (.list element)) :
    type.unwrap? (levels + 1) = some element := by
  induction levels generalizing type with
  | zero =>
      obtain rfl := Option.some.inj unwrapped
      rfl
  | succ levels inductionHypothesis =>
      cases type with
      | list inner => exact inductionHypothesis unwrapped
      | _ => cases unwrapped

/-- The walk of a path ends with a segment that names the located field and with the segments that
step from there into lists. -/
structure Located.Trace (located : Located) (schema : Schema) (before : Path) (own : Segment)
    (steps : Path) : Prop where
  named : own.name = located.field.name
  indices : ∀ step ∈ steps, ∃ position, step = .index position
  unwrapped : located.field.type.unwrap? steps.length = some located.type
  indexed : located.indexed = !steps.isEmpty
  stored : ∃ object ∈ schema.objectTypes, object.field? located.field.name = some located.field

/-- Every located path has a trace. -/
theorem Schema.exists_trace {schema : Schema} (consistent : schema.Consistent) {path : Path}
    {located : Located} (found : schema.walk? path = some (some located)) :
    ∃ before own steps, path = before ++ own :: steps ∧
      located.Trace schema before own steps := by
  induction path using List.reverseRecOn generalizing located with
  | nil => cases found
  | append_singleton path segment inductionHypothesis =>
      rw [walk?_concat] at found
      obtain ⟨current, walked, found⟩ := Option.bind_eq_some_iff.mp found
      obtain ⟨_, advanced, same⟩ := Option.map_eq_some_iff.mp found
      obtain rfl := Option.some.inj same
      rcases advance?_eq_some_iff.mp advanced with
        ⟨field, element, indexed, position, rfl, rfl, rfl⟩ | ⟨container, field, inside, selected, rfl⟩
      · obtain ⟨before, own, steps, rfl, trace⟩ := inductionHypothesis walked
        refine ⟨before, own, steps ++ [.index position], by simp, ?_⟩
        constructor
        case named => exact trace.named
        case indices =>
          intro step member
          rcases List.mem_append.mp member with earlier | last
          · exact trace.indices step earlier
          · exact ⟨position, List.mem_singleton.mp last⟩
        case unwrapped =>
          rw [List.length_append]
          exact TypeRef.unwrap?_succ trace.unwrapped
        case indexed => simp
        case stored => exact trace.stored
      · have member := container?_mem_objectTypes inside
        have named := (consistent.of_mem member _ _ selected).1
        refine ⟨path, segment, [], rfl, ?_⟩
        constructor
        case named => exact named.symm
        case indices => simp
        case unwrapped => rfl
        case indexed => rfl
        case stored => exact ⟨container, member, by rw [Located.ofField, named]; exact selected⟩

namespace Located

variable {schema : Schema} {located : Located} {before steps : Path} {own : Segment}

/-- The field of a trace is consistent with its type. -/
theorem Trace.strategy_field (consistent : schema.Consistent)
    (trace : located.Trace schema before own steps) :
    located.field.strategy = .ofType located.field.type ∨
      located.field.type = .scalar .string ∧ located.field.strategy = .null := by
  obtain ⟨object, inside, found⟩ := trace.stored
  rcases (consistent.of_mem inside _ _ found).2 with same | fallback
  · exact Or.inl same
  · rw [fallback]
    exact Or.inr ⟨rfl, rfl⟩

/-- The strategy at the end of a walk is that of the located type, or the type is the scalar of a
fallback field. -/
theorem Trace.strategy_eq (consistent : schema.Consistent)
    (trace : located.Trace schema before own steps) :
    located.strategy = .ofType located.type ∨
      located.type = .scalar .string ∧ located.strategy = .null := by
  unfold Located.strategy
  split
  · exact Or.inl rfl
  · next plain =>
      have noSteps : steps = [] := by
        rw [trace.indexed] at plain
        simpa using plain
      have whole : located.field.type = located.type := by
        have unwrapped := trace.unwrapped
        rw [noSteps] at unwrapped
        exact Option.some.inj unwrapped
      rw [← whole]
      exact trace.strategy_field consistent

/-- The strategy at the end of a walk fetches a list exactly for a list type. -/
theorem Trace.strategy_eq_array_iff (consistent : schema.Consistent)
    (trace : located.Trace schema before own steps) :
    located.strategy = .array ↔ ∃ element, located.type = .list element := by
  rcases trace.strategy_eq consistent with same | ⟨scalar, null⟩
  · rw [same]
    cases located.type <;> simp [Strategy.ofType]
  · simp [scalar, null]

theorem Trace.strategy_eq_object (consistent : schema.Consistent)
    (trace : located.Trace schema before own steps) {name : String}
    (composite : located.type.objectName? = some name) : located.strategy = .object := by
  rcases trace.strategy_eq consistent with same | ⟨scalar, _⟩
  · rw [same]
    cases type : located.type with
    | object => rfl
    | _ => simp [type, TypeRef.objectName?] at composite
  · simp [scalar, TypeRef.objectName?] at composite

end Located

end SchemaInference
