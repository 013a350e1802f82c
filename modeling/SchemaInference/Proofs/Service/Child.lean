/-
This file compares the resolution of a path with the resolution of the paths one segment longer.
-/

import SchemaInference.Service.Generation
import SchemaInference.Proofs.Inference.Assembled
import SchemaInference.Proofs.Resolved
import SchemaInference.Proofs.Schema.Walk

namespace SchemaInference

/-- A child is resolved from the member or item of its resolved parent, and it is missing when the
parent is. An index reads a value that the parent hides from the document itself. -/
structure Resolved.ChildAgrees (outer : Resolved) (found : Option Json) (segment : Segment)
    (strategy : Strategy) (child : Resolved) : Prop where
  member : ∀ members, outer = .object members →
    child = strategy.apply (members.lookup segment.name)
  item : ∀ items, outer = .list items → ¬ outer.Hides found →
    ∃ position, segment = .index position ∧ child = strategy.apply items[position.toNat]?
  missing : outer.Missing → ¬ (outer.Hides found ∧ ∃ position, segment = .index position) →
    child.Missing
  hiddenMember : ∀ members, outer = .list [] → found = some (.object members) →
    child = strategy.apply (members.lookup segment.name)
  hiddenItem : ∀ items position, outer = .null → found = some (.array items) →
    segment = .index position → child = strategy.apply items[position.toNat]?

namespace Strategy

/-- An index into a resolved list agrees with the list. -/
theorem array_childAgrees (strategy : Strategy) (found : Option Json) (position : UInt64) :
    (array.apply found).ChildAgrees found (.index position) strategy
      (strategy.apply (found.bind (Json.step? (.index position)))) := by
  have absent := strategy.apply_none_missing
  rcases found with _ | value
  · constructor
    case missing => exact fun _ _ => absent
    all_goals simp [apply]
  · cases value with
    | array items =>
        constructor
        case item =>
          intro others same _
          obtain rfl := Resolved.list.inj same
          exact ⟨position, rfl, rfl⟩
        case missing =>
          intro missing _
          have empty : items = [] := by simpa [apply, Resolved.Missing] using missing
          rw [empty]
          exact absent
        all_goals simp [apply]
    | object members =>
        have hides : (array.apply (some (.object members))).Hides (some (.object members)) := trivial
        constructor
        case item => exact fun _ _ plain => absurd hides plain
        case missing => exact fun _ plain => absurd ⟨hides, position, rfl⟩ plain
        case hiddenMember =>
          intro others _ same
          obtain rfl := Json.object.inj (Option.some.inj same)
          rw [Option.bind_some, Json.step?_object]
        all_goals simp [apply]
    | _ =>
        constructor
        case missing => exact fun _ _ => absent
        all_goals simp [apply, Json.step?]

/-- A segment after a resolved object agrees with the object. -/
theorem object_childAgrees (strategy : Strategy) (found : Option Json) (segment : Segment) :
    (object.apply found).ChildAgrees found segment strategy
      (strategy.apply (found.bind (Json.step? segment))) := by
  have absent := strategy.apply_none_missing
  rcases found with _ | value
  · constructor
    case missing => exact fun _ _ => absent
    all_goals simp [apply]
  · cases value with
    | object members =>
        constructor
        case member =>
          intro others same
          obtain rfl := Resolved.object.inj same
          rw [Option.bind_some, Json.step?_object]
        all_goals simp [apply, Resolved.Missing]
    | array items =>
        have hides : (object.apply (some (.array items))).Hides (some (.array items)) := trivial
        constructor
        case missing =>
          intro _ plain
          cases segment with
          | field name => exact absent
          | index position => exact absurd ⟨hides, position, rfl⟩ plain
        case hiddenItem =>
          intro others position _ same index
          obtain rfl := Json.array.inj (Option.some.inj same)
          rw [index]
          rfl
        all_goals simp [apply]
    | _ =>
        constructor
        case missing => cases segment <;> exact fun _ _ => absent
        all_goals simp [apply]

end Strategy

namespace Schema

/-- A path is longer by one segment after a list, where the segment is an index, or after an
object. The path is resolved by the strategy of its type. -/
theorem locate_concat {schema : Schema} (consistent : schema.Consistent) {path : Path}
    {segment : Segment} {outer inner : Located} (located : schema.locate path = .ok outer)
    (found : schema.locate (path ++ [segment]) = .ok inner) :
    (outer.strategy = .array ∧ ∃ position, segment = .index position) ∨
      outer.strategy = .object := by
  have walked := locate_eq_ok_iff.mp located
  obtain ⟨before, own, steps, _, trace⟩ := exists_trace consistent walked
  have longer := locate_eq_ok_iff.mp found
  rw [walk?_concat, walked, Option.bind_some, Option.map_eq_some_iff] at longer
  obtain ⟨last, advanced, _⟩ := longer
  rcases advance?_eq_some_iff.mp advanced with
    ⟨field, element, indexed, position, same, index, _⟩ | ⟨container, _, inside, _, _⟩
  · obtain rfl := Option.some.inj same
    exact Or.inl ⟨(trace.strategy_eq_array_iff consistent).mpr ⟨element, rfl⟩, position, index⟩
  · obtain ⟨name, composite, _⟩ := Option.bind_eq_some_iff.mp inside
    exact Or.inr (trace.strategy_eq_object consistent composite)

end Schema

namespace Generation

/-- A path and a path longer by one segment resolve in agreement when the schema has both. -/
theorem resolve_child (assembler : Assembler) (generation : Generation) (path : Path)
    (segment : Segment) (outer : Resolved) (inner : Located)
    (assembled : assembler.assemble generation.document.value = .ok generation.schema)
    (resolved : generation.resolve path = .ok outer)
    (found : generation.schema.locate (path ++ [segment]) = .ok inner) :
    ∃ child, generation.resolve (path ++ [segment]) = .ok child ∧
      outer.ChildAgrees (generation.document.value.at? path) segment inner.strategy child ∧
      (inner.strategy.apply none).Missing := by
  have consistent : generation.schema.Consistent := by
    rw [(Assembler.assemble_eq_ok_iff.mp assembled).1]
    exact Assembler.build_consistent
  have child : generation.resolve (path ++ [segment]) = .ok (inner.strategy.apply
      ((generation.document.value.at? path).bind (Json.step? segment))) := by
    rw [resolve, found, ← Json.at?_concat]
    rfl
  refine ⟨_, child, ?_, inner.strategy.apply_none_missing⟩
  cases located : generation.schema.locate path with
  | error failure =>
      rw [resolve, located] at resolved
      cases resolved
  | ok parent =>
      rw [resolve, located] at resolved
      obtain rfl : parent.strategy.resolve generation.document.value path = outer :=
        Except.ok.inj resolved
      unfold Strategy.resolve
      rcases Schema.locate_concat consistent located found with ⟨list, position, rfl⟩ | object
      · rw [list]
        exact inner.strategy.array_childAgrees _ position
      · rw [object]
        exact inner.strategy.object_childAgrees _ segment

/-- The list `x` of the first `a` drifts to an object with a numeric key in the second. -/
def driftedDocument : Json :=
  .object [("a", .object [("x", .array [.string "s"])]),
    ("b", .object [("a", .object [("x", .object [("0", .string "v")])])])]

/-- This generation keeps the schema of the drifted document. -/
def driftedGeneration : Generation :=
  ⟨1, (Assembler.ofOptions .standard).build driftedDocument, ⟨driftedDocument, .empty⟩⟩

/-- The first item of the list resolves to its text. -/
theorem resolve_child_first_item :
    (Assembler.ofOptions .standard).assemble driftedGeneration.document.value =
        .ok driftedGeneration.schema ∧
      driftedGeneration.resolve [.field "a", .field "x"] = .ok (.list [.string "s"]) ∧
      driftedGeneration.schema.locate [.field "a", .field "x", .index 0] =
        .ok ⟨.list "x" (.scalar .string), .scalar .string, true⟩ ∧
      driftedGeneration.resolve [.field "a", .field "x", .index 0] =
        .ok (.scalar (.string "s")) := by
  refine ⟨rfl, rfl, rfl, ?_⟩
  obtain ⟨child, resolves, agrees, _⟩ := resolve_child (Assembler.ofOptions .standard)
    driftedGeneration [.field "a", .field "x"] (.index 0) (.list [.string "s"])
    ⟨.list "x" (.scalar .string), .scalar .string, true⟩ rfl rfl rfl
  obtain ⟨position, index, rfl⟩ := agrees.item [.string "s"] rfl id
  obtain rfl : 0 = position := Segment.index.inj index
  exact resolves

/-- The list that drifts to an object resolves to the empty list, but its numeric key resolves to
the text of the member. -/
theorem resolve_child_beyond_empty_list :
    (Assembler.ofOptions .standard).assemble driftedGeneration.document.value =
        .ok driftedGeneration.schema ∧
      driftedGeneration.resolve [.field "b", .field "a", .field "x"] = .ok (.list []) ∧
      ∃ child, driftedGeneration.resolve [.field "b", .field "a", .field "x", .index 0] =
          .ok child ∧ ¬ child.Missing := by
  have printed : (Segment.index 0).name = "0" := Segment.name_index_of_lt (by decide)
  have member : driftedDocument.at? ([.field "b", .field "a", .field "x"] ++ [.index 0]) =
      some (.string "v") := by
    have parent : driftedDocument.at? [.field "b", .field "a", .field "x"] =
        some (.object [("0", .string "v")]) := rfl
    rw [Json.at?_concat, parent, Option.bind_some, Json.step?_object, printed]
    rfl
  refine ⟨rfl, rfl, .scalar (.string "v"), ?_, by simp [Resolved.Missing]⟩
  show Except.ok ((Strategy.scalar .string).resolve driftedDocument _) = _
  exact congrArg (fun found => Except.ok ((Strategy.scalar .string).apply found)) member

end Generation

end SchemaInference
