/-
This file says what every type of an assembled schema looks like.
-/

import SchemaInference.Proofs.Inference.Assembled

namespace SchemaInference

/-! Identifiers -/

/-- The character is a letter or an underscore. The letters are those of ASCII. -/
def IsNameStart (character : Char) : Prop :=
  character = '_' ∨ 'A' ≤ character ∧ character ≤ 'Z' ∨ 'a' ≤ character ∧ character ≤ 'z'

/-- An identifier begins with a letter or an underscore and goes on with letters, underscores and
digits. -/
def IsIdentifier (name : String) : Prop :=
  ∃ first rest, name.toList = first :: rest ∧ IsNameStart first ∧
    ∀ character ∈ rest, IsNameStart character ∨ '0' ≤ character ∧ character ≤ '9'

theorem isNameStart_iff {character : Char} :
    isNameStart character = true ↔ IsNameStart character := by
  have upper : character.isUpper = true ↔ 'A' ≤ character ∧ character ≤ 'Z' :=
    decide_eq_true_iff
  have lower : character.isLower = true ↔ 'a' ≤ character ∧ character ≤ 'z' := by
    show (decide ('a' ≤ character) && decide (character ≤ 'z')) = true ↔ _
    rw [Bool.and_eq_true, decide_eq_true_iff, decide_eq_true_iff]
  have letter : character.isAlpha = (character.isUpper || character.isLower) := rfl
  rw [isNameStart, letter, Bool.or_eq_true, Bool.or_eq_true, beq_iff_eq, upper, lower]
  rfl

theorem isIdentifier_iff {name : String} : isIdentifier name = true ↔ IsIdentifier name := by
  have isPart : ∀ {character}, isNamePart character = true ↔
      IsNameStart character ∨ '0' ≤ character ∧ character ≤ '9' := by
    intro character
    rw [isNamePart, Bool.or_eq_true, isNameStart_iff]
    simp [Text.isDigit]
  unfold isIdentifier IsIdentifier
  cases name.toList with
  | nil => simp
  | cons first rest => simp [isNameStart_iff, isPart, List.all_eq_true]

/-! Types -/

namespace ObjectType

/-- A well-formed type has a field and keeps every field under its own name. A field has the
strategy of its type, or it is the fallback: it resolves to null, is a string and has the name of
the options, and the type has no other field. Strict names are identifiers. -/
structure WellFormed (object : ObjectType) (options : Options) : Prop where
  inhabited : ∃ name field, object.field? name = some field
  keyed : ∀ name field, object.field? name = some field → field.name = name
  resolved : ∀ name field, object.field? name = some field → field.strategy ≠ .null →
    field.strategy = .ofType field.type
  unresolved : ∀ name field, object.field? name = some field → field.strategy = .null →
    field.type = .scalar .string ∧ field.name = options.fallbackField ∧
      ∀ other, (object.field? other).isSome → other = name
  named : options.strictNames = true → IsIdentifier object.name ∧
    ∀ name field, object.field? name = some field → IsIdentifier field.name

theorem exists_field?_orFallback (object : ObjectType) (fallbackName : String) :
    ∃ name field, (object.orFallback fallbackName).field? name = some field := by
  by_cases absent : ∀ other, object.field? other = none
  · exact ⟨_, _, field?_orFallback.mpr (Or.inr ⟨absent, rfl, rfl⟩)⟩
  · obtain ⟨name, present⟩ := not_forall.mp absent
    obtain ⟨field, found⟩ := Option.ne_none_iff_exists'.mp present
    exact ⟨name, field, field?_orFallback.mpr (Or.inl found)⟩

end ObjectType

theorem Strategy.ofType_ne_null (type : TypeRef) : ofType type ≠ .null := by
  cases type <;> exact nofun

/-- A well-formed schema keeps every composite type under its own name, which is neither that of the
root nor built in. The root and the composite types are well-formed. -/
structure Schema.WellFormed (schema : Schema) (options : Options) : Prop where
  keyed : ∀ name object, schema.types.get? name = some object → object.name = name
  distinct : ∀ name object, schema.types.get? name = some object →
    name ≠ schema.root.name ∧ name ∉ ScalarKind.builtinNames
  rootNamed : schema.root.name = options.rootTypeName
  objects : ∀ object ∈ schema.objectTypes, object.WellFormed options

namespace Assembler

open Builder

variable {assembler : Assembler} {document : Json} {object : ObjectType}

/-- The root and the stored types have the fields of samples, or the fallback. -/
theorem exists_samples_of_mem_objectTypes
    (inside : object ∈ (assembler.build document).objectTypes) :
    ∃ name levels samples, object = ((ObjectType.empty name).addSampled
      ((assembler.builder document).sampledField levels) samples).orFallback
        assembler.options.fallbackField := by
  rcases List.mem_cons.mp inside with rfl | stored
  · exact ⟨_, _, _, root_build⟩
  · obtain ⟨_, found⟩ := Dict.mem_values_iff.mp stored
    obtain ⟨_, _, _, _, _, opens⟩ := exists_makes found
    cases opens
    exact ⟨_, _, _, rfl⟩

/-- A field comes from a sample, or it is the fallback and stands alone. -/
theorem field?_cases (inside : object ∈ (assembler.build document).objectTypes) {name : String}
    {field : Field} (found : object.field? name = some field) :
    (∃ levels sample, field = (assembler.builder document).sampledField levels name sample) ∨
      name = assembler.options.fallbackField ∧ field = .fallback assembler.options.fallbackField ∧
        ∀ other, (object.field? other).isSome → other = name := by
  obtain ⟨typeName, levels, samples, rfl⟩ := exists_samples_of_mem_objectTypes inside
  rcases ObjectType.field?_orFallback.mp found with present | ⟨absent, rfl, rfl⟩
  · rcases ObjectType.field?_addSampled ((assembler.builder document).name_sampledField levels)
      present with older | ⟨sample, _, rfl⟩
    · simp [ObjectType.empty, ObjectType.field?] at older
    · exact Or.inl ⟨levels, sample, rfl⟩
  · refine Or.inr ⟨rfl, rfl, fun other some => ?_⟩
    obtain ⟨field, found⟩ := Option.isSome_iff_exists.mp some
    rcases ObjectType.field?_orFallback.mp found with present | ⟨_, same, _⟩
    · rw [absent other] at present
      cases present
    · exact same

theorem wellFormed_of_mem_objectTypes
    (checked : (assembler.build document).Checked assembler.options)
    (inside : object ∈ (assembler.build document).objectTypes) :
    object.WellFormed assembler.options := by
  constructor
  case inhabited =>
    obtain ⟨_, _, _, rfl⟩ := exists_samples_of_mem_objectTypes inside
    exact ObjectType.exists_field?_orFallback _ _
  case keyed =>
    intro name field found
    rcases field?_cases inside found with ⟨levels, sample, rfl⟩ | ⟨rfl, rfl, _⟩
    · exact name_sampledField _ _ _ _
    · rfl
  case resolved =>
    intro name field found resolves
    rcases field?_cases inside found with ⟨levels, sample, rfl⟩ | ⟨_, rfl, _⟩
    · exact strategy_sampledField _ _ _ _
    · exact absurd rfl resolves
  case unresolved =>
    intro name field found null
    rcases field?_cases inside found with ⟨levels, sample, rfl⟩ | ⟨rfl, rfl, alone⟩
    · rw [strategy_sampledField] at null
      exact absurd null (Strategy.ofType_ne_null _)
    · exact ⟨rfl, rfl, alone⟩
  case named =>
    intro strict
    refine ⟨isIdentifier_iff.mp ?_, fun name field found => isIdentifier_iff.mp ?_⟩
    · rcases List.mem_cons.mp inside with rfl | stored
      · exact checked.rootNamed strict
      · exact checked.typesNamed object stored strict
    · exact checked.fieldsNamed object inside field (Dict.mem_values_iff.mpr ⟨name, found⟩) strict

/-- Every assembled schema is well-formed. -/
theorem assemble_wellFormed (assembler : Assembler) (document : Json) (schema : Schema)
    (assembled : assembler.assemble document = .ok schema) :
    schema.WellFormed assembler.options := by
  obtain ⟨rfl, checked⟩ := assemble_eq_ok_iff.mp assembled
  constructor
  case keyed => exact fun name object stored => (exists_makes stored).1
  case distinct =>
    intro name object stored
    have distinct := checked.typesDistinct object (Dict.mem_values_iff.mpr ⟨name, stored⟩)
    rw [(exists_makes stored).1, List.mem_cons, not_or] at distinct
    exact distinct
  case rootNamed =>
    rw [root_build]
    simp [ObjectType.empty]
  case objects => exact fun object inside => wellFormed_of_mem_objectTypes checked inside

/-- The type of an empty object has the fallback alone. -/
theorem assemble_wellFormed_empty :
    let document := Json.object [("a", .object []), ("b", .array [.object [("a", .null)], .null])]
    let object := (ObjectType.empty "aObject").addField (.fallback "anyField")
    ∃ schema, (ofOptions .standard).assemble document = .ok schema ∧
      schema.WellFormed .standard ∧ schema.types.get? "aObject" = some object ∧
      IsIdentifier object.name ∧ ∀ other, (object.field? other).isSome → other = "anyField" := by
  intro document object
  have assembled : (ofOptions .standard).assemble document =
      .ok ((ofOptions .standard).build document) := by
    decide +kernel
  have stored : ((ofOptions .standard).build document).types.get? "aObject" = some object := by
    decide +kernel
  have wellFormed := assemble_wellFormed _ document _ assembled
  have typed := wellFormed.objects object
    (List.mem_cons_of_mem _ (Dict.mem_values_iff.mpr ⟨_, stored⟩))
  exact ⟨_, assembled, wellFormed, stored, (typed.named rfl).1,
    (typed.unresolved "anyField" _ rfl rfl).2.2⟩

end Assembler

end SchemaInference
