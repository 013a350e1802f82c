/-
This file shows that every located path resolves, to a result that fits its type.
-/

import SchemaInference.Service.Generation
import SchemaInference.Proofs.Inference.Assembled
import SchemaInference.Proofs.Scalar
import SchemaInference.Proofs.Schema.Walk

namespace SchemaInference

/-- A list type has the items of an array, and none where there is no array. An object type has the
members of an object, or null. A scalar type has null or a scalar of its kind, which is the value
itself when the value has that kind. Only the strategy of a fallback field ignores such a value. -/
structure Resolved.Fits (resolved : Resolved) (located : Located) (found : Option Json) :
    Prop where
  list : ∀ element, located.type = .list element → ∃ items, resolved = .list items ∧
    (found = some (.array items) ∨ items = [] ∧ ∀ others, found ≠ some (.array others))
  object : ∀ name, located.type = .object name →
    (∃ members, resolved = .object members ∧ found = some (.object members)) ∨
      resolved = .null ∧ ∀ members, found ≠ some (.object members)
  scalar : ∀ kind, located.type = .scalar kind → resolved = .null ∨
    ∃ form, resolved = .scalar form ∧ form.scalarKind? = some kind ∧ kind.coerce? form = some form
  same : ∀ kind value, located.type = .scalar kind → found = some value →
    value.scalarKind? = some kind → located.strategy ≠ .null → resolved = .scalar value

namespace Strategy

theorem apply_array (found : Option Json) : ∃ items, array.apply found = .list items ∧
    (found = some (.array items) ∨ items = [] ∧ ∀ others, found ≠ some (.array others)) := by
  cases found with
  | none => exact ⟨[], rfl, Or.inr ⟨rfl, by simp⟩⟩
  | some value =>
      cases value with
      | array items => exact ⟨items, rfl, Or.inl rfl⟩
      | _ => exact ⟨[], rfl, Or.inr ⟨rfl, by simp⟩⟩

theorem apply_object (found : Option Json) :
    (∃ members, object.apply found = .object members ∧ found = some (.object members)) ∨
      object.apply found = .null ∧ ∀ members, found ≠ some (.object members) := by
  cases found with
  | none => exact Or.inr ⟨rfl, by simp⟩
  | some value =>
      cases value with
      | object members => exact Or.inl ⟨members, rfl, rfl⟩
      | _ => exact Or.inr ⟨rfl, by simp⟩

theorem apply_scalar (kind : ScalarKind) (found : Option Json) :
    (scalar kind).apply found = .null ∨ ∃ form, (scalar kind).apply found = .scalar form ∧
      form.scalarKind? = some kind ∧ kind.coerce? form = some form := by
  cases formed : found.bind kind.coerce? with
  | none => exact Or.inl (by rw [apply, formed])
  | some form =>
      obtain ⟨value, _, coerced⟩ := Option.bind_eq_some_iff.mp formed
      have kept := ScalarKind.scalarKind?_of_coerce? coerced
      exact Or.inr ⟨form, by rw [apply, formed], kept, ScalarKind.coerce?_eq_self kept⟩

theorem apply_scalar_self {kind : ScalarKind} {value : Json}
    (ofKind : value.scalarKind? = some kind) :
    (scalar kind).apply (some value) = .scalar value := by
  simp [apply, ScalarKind.coerce?_eq_self ofKind]

/-- A strategy gives what fits the type when it is the strategy of the type, or when it is that of a
fallback field. -/
theorem apply_fits {located : Located} (found : Option Json)
    (agrees : located.strategy = .ofType located.type ∨
      located.type = .scalar .string ∧ located.strategy = .null) :
    (located.strategy.apply found).Fits located found := by
  rcases agrees with same | ⟨text, null⟩
  · rw [same]
    constructor
    case list =>
      intro element type
      rw [type]
      exact apply_array found
    case object =>
      intro name type
      rw [type]
      exact apply_object found
    case scalar =>
      intro kind type
      rw [type]
      exact apply_scalar kind found
    case same =>
      rintro kind value type rfl ofKind _
      rw [type]
      exact apply_scalar_self ofKind
  · rw [null]
    constructor
    case list => simp [text]
    case object => simp [text]
    case scalar => exact fun _ _ => Or.inl rfl
    case same => exact fun _ _ _ _ _ other => absurd null other

end Strategy

namespace Generation

/-- A path resolves exactly when it is located, and its result fits the located type, whatever
document the generation holds. Every path that is not located fails as an unknown field. -/
theorem resolve_fits (assembler : Assembler) (source : Json) (generation : Generation)
    (assembled : assembler.assemble source = .ok generation.schema) (path : Path) :
    (∀ failure, generation.resolve path = .error failure ↔
      generation.schema.locate path = .error failure) ∧
    (∀ failure, generation.resolve path = .error failure →
      failure = .unknownField (Path.name path)) ∧
    ∀ located, generation.schema.locate path = .ok located →
      ∃ resolved, generation.resolve path = .ok resolved ∧
        resolved.Fits located (generation.document.value.at? path) := by
  have fails : ∀ failure, generation.resolve path = .error failure ↔
      generation.schema.locate path = .error failure := by
    intro failure
    rw [resolve]
    cases generation.schema.locate path <;> simp [Except.map]
  refine ⟨fails, fun failure failed => ?_, fun located found => ?_⟩
  · exact (Schema.locate_eq_error_iff.mp ((fails failure).mp failed)).2
  · have consistent : generation.schema.Consistent := by
      rw [(Assembler.assemble_eq_ok_iff.mp assembled).1]
      exact Assembler.build_consistent
    obtain ⟨_, _, _, _, trace⟩ := Schema.exists_trace consistent (Schema.locate_eq_ok_iff.mp found)
    refine ⟨_, ?_, Strategy.apply_fits (generation.document.value.at? path)
      (trace.strategy_eq consistent)⟩
    rw [resolve, found]
    rfl

/-- The schema of this document meets a document in which every member has drifted. -/
def switchDocument : Json :=
  .object [("list", .array [.array [.number (.natural 1)]]), ("switch", .boolean true)]

def switchGeneration : Generation where
  number := 1
  schema := (Assembler.ofOptions .standard).build switchDocument
  document := ⟨.object [("list", .array [.object []]), ("switch", .string "true")], .empty⟩

/-- The text is read as a boolean, the item that is no list has no items, and an unknown name
fails. -/
theorem resolve_fits_switch :
    (Assembler.ofOptions .standard).assemble switchDocument = .ok switchGeneration.schema ∧
      switchGeneration.resolve [.field "other"] = .error (.unknownField "other") ∧
      switchGeneration.resolve [.field "switch"] = .ok (.scalar (.boolean true)) ∧
      (Resolved.scalar (.boolean true)).Fits (.ofField (.scalar "switch" .boolean))
        (some (.string "true")) ∧
      switchGeneration.resolve [.field "list", .index 0] = .ok (.list []) ∧
      (Resolved.list []).Fits
        ⟨.list "list" (.list (.scalar .float)), .list (.scalar .float), true⟩
        (some (.object [])) := by
  have assembled : (Assembler.ofOptions .standard).assemble switchDocument =
      .ok switchGeneration.schema := rfl
  have fits := resolve_fits (.ofOptions .standard) switchDocument switchGeneration assembled
  obtain ⟨boolean, resolves, booleanFits⟩ := (fits [.field "switch"]).2.2 _ rfl
  obtain ⟨items, resolvesItem, itemsFit⟩ := (fits [.field "list", .index 0]).2.2 _ rfl
  have unknown : switchGeneration.resolve [.field "other"] = .error (.unknownField "other") :=
    ((fits [.field "other"]).1 _).mpr rfl
  obtain rfl : .scalar (.boolean true) = boolean := Except.ok.inj resolves
  obtain rfl : .list [] = items := Except.ok.inj resolvesItem
  exact ⟨assembled, unknown, resolves, booleanFits, resolvesItem, itemsFit⟩

end Generation

end SchemaInference
