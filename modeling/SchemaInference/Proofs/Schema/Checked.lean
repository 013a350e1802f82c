/-
This file says what the checks of a schema guarantee.
-/

import SchemaInference.Inference.Validation

namespace SchemaInference

/-- A check of a list passes when it passes for every item. -/
theorem forM_eq_ok_iff {α : Type} {check : α → Outcome Unit} {items : List α} :
    items.forM check = .ok () ↔ ∀ item ∈ items, check item = .ok () := by
  induction items with
  | nil => simp [pure, Except.pure]
  | cons item rest inductionHypothesis =>
      rw [List.forM_eq_forM] at inductionHypothesis
      rw [List.forM_eq_forM, List.forM_cons, List.forall_mem_cons, ← inductionHypothesis]
      cases check item <;> simp [bind, Except.bind]

/-- A check of a list fails as it fails for some item. -/
theorem exists_of_forM_eq_error {α : Type} {check : α → Outcome Unit} {items : List α}
    {failure : Failure} (failed : items.forM check = .error failure) :
    ∃ item ∈ items, check item = .error failure := by
  induction items with
  | nil => simp [pure, Except.pure] at failed
  | cons item rest inductionHypothesis =>
      rw [List.forM_eq_forM] at inductionHypothesis
      rw [List.forM_eq_forM, List.forM_cons] at failed
      cases first : check item with
      | error cause =>
          rw [first] at failed
          exact ⟨item, List.mem_cons_self, first.trans failed⟩
      | ok =>
          rw [first] at failed
          obtain ⟨other, inside, same⟩ := inductionHypothesis failed
          exact ⟨other, List.mem_cons_of_mem _ inside, same⟩

namespace Schema

/-- Strict names are identifiers. -/
def Named (options : Options) (name : String) : Prop :=
  options.strictNames = true → isIdentifier name = true

/-- A checked schema has admissible names and no reference to a type that is not there. -/
structure Checked (schema : Schema) (options : Options) : Prop where
  rootNamed : Named options schema.root.name
  rootDistinct : schema.root.name ∉ ScalarKind.builtinNames
  typesNamed : ∀ object ∈ schema.types.values, Named options object.name
  typesDistinct : ∀ object ∈ schema.types.values,
    object.name ∉ schema.root.name :: ScalarKind.builtinNames
  fieldsNamed : ∀ object ∈ schema.objectTypes, ∀ field ∈ object.fields.values,
    Named options field.name
  fieldsDefined : ∀ object ∈ schema.objectTypes, ∀ field ∈ object.fields.values,
    isDefined schema.types field.type = true

theorem checkName_eq_ok_iff {options : Options} (kind : NameKind) {name : String} :
    checkName options kind name = .ok () ↔ Named options name := by
  unfold checkName Named
  cases options.strictNames <;> cases isIdentifier name <;> simp

theorem checkTypeName_eq_ok_iff {options : Options} {taken : List String} {name : String} :
    checkTypeName options taken name = .ok () ↔ Named options name ∧ name ∉ taken := by
  rw [← checkName_eq_ok_iff .type, checkTypeName]
  cases checkName options .type name with
  | error failure => simp [bind, Except.bind]
  | ok => by_cases inside : name ∈ taken <;> simp [bind, Except.bind, pure, Except.pure, inside]

theorem checkField_eq_ok_iff {options : Options} {types : Dict ObjectType} {object : ObjectType}
    {field : Field} :
    checkField options types object field = .ok () ↔
      Named options field.name ∧ isDefined types field.type = true := by
  rw [← checkName_eq_ok_iff .field, checkField]
  cases checkName options .field field.name with
  | error failure => simp [bind, Except.bind]
  | ok =>
      cases isDefined types field.type <;> simp [bind, Except.bind, pure, Except.pure]

/-- The schemas that pass are the checked ones. -/
theorem validate_eq_ok_iff {schema : Schema} {options : Options} :
    schema.validate options = .ok () ↔ schema.Checked options := by
  have split : schema.validate options = .ok () ↔
      checkTypeName options ScalarKind.builtinNames schema.root.name = .ok () ∧
      (schema.types.values.forM fun object =>
        checkTypeName options (schema.root.name :: ScalarKind.builtinNames) object.name) = .ok () ∧
      (schema.objectTypes.forM fun object =>
        object.fields.values.forM (checkField options schema.types object)) = .ok () := by
    unfold validate
    cases checkTypeName options ScalarKind.builtinNames schema.root.name with
    | error failure => simp [bind, Except.bind]
    | ok =>
        cases schema.types.values.forM fun object =>
            checkTypeName options (schema.root.name :: ScalarKind.builtinNames) object.name with
        | error failure => simp [bind, Except.bind]
        | ok => simp [bind, Except.bind]
  simp only [split, forM_eq_ok_iff, checkTypeName_eq_ok_iff, checkField_eq_ok_iff]
  constructor
  · rintro ⟨⟨rootNamed, rootDistinct⟩, types, fields⟩
    exact ⟨rootNamed, rootDistinct, fun object inside => (types object inside).1,
      fun object inside => (types object inside).2,
      fun object inside field member => (fields object inside field member).1,
      fun object inside field member => (fields object inside field member).2⟩
  · intro checked
    exact ⟨⟨checked.rootNamed, checked.rootDistinct⟩,
      fun object inside => ⟨checked.typesNamed object inside, checked.typesDistinct object inside⟩,
      fun object inside field member =>
        ⟨checked.fieldsNamed object inside field member,
          checked.fieldsDefined object inside field member⟩⟩

theorem checkName_ne_assembly (options : Options) (kind : NameKind) (name message : String) :
    checkName options kind name ≠ .error (.assembly message) := by
  unfold checkName
  split <;> simp

theorem checkTypeName_ne_assembly (options : Options) (taken : List String)
    (name message : String) :
    checkTypeName options taken name ≠ .error (.assembly message) := by
  have admissible := checkName_ne_assembly options .type name message
  unfold checkTypeName
  cases named : checkName options .type name with
  | error failure => simpa [bind, Except.bind, named] using admissible
  | ok => by_cases inside : name ∈ taken <;> simp [bind, Except.bind, pure, Except.pure, inside]

theorem isDefined_eq_false_of_checkField {options : Options} {types : Dict ObjectType}
    {object : ObjectType} {field : Field} {message : String}
    (failed : checkField options types object field = .error (.assembly message)) :
    isDefined types field.type = false := by
  have admissible := checkName_ne_assembly options .field field.name message
  unfold checkField at failed
  cases named : checkName options .field field.name with
  | error failure => simp_all [bind, Except.bind]
  | ok =>
      cases defined : isDefined types field.type with
      | false => rfl
      | true => simp [bind, Except.bind, pure, Except.pure, named, defined] at failed

/-- Only a reference to a type that is not there fails the assembly as such. -/
theorem exists_of_validate_eq_assembly {schema : Schema} {options : Options} {message : String}
    (failed : schema.validate options = .error (.assembly message)) :
    ∃ object ∈ schema.objectTypes, ∃ field ∈ object.fields.values,
      isDefined schema.types field.type = false := by
  unfold validate at failed
  cases root : checkTypeName options ScalarKind.builtinNames schema.root.name with
  | error failure =>
      rw [root] at failed
      exact absurd (root.trans failed) (checkTypeName_ne_assembly _ _ _ _)
  | ok =>
      rw [root] at failed
      cases types : schema.types.values.forM fun object =>
          checkTypeName options (schema.root.name :: ScalarKind.builtinNames) object.name with
      | error failure =>
          rw [types] at failed
          obtain ⟨object, _, cause⟩ := exists_of_forM_eq_error (types.trans failed)
          exact absurd cause (checkTypeName_ne_assembly _ _ _ _)
      | ok =>
          rw [types] at failed
          obtain ⟨object, inside, cause⟩ := exists_of_forM_eq_error failed
          obtain ⟨field, member, undefined⟩ := exists_of_forM_eq_error cause
          exact ⟨object, inside, field, member, isDefined_eq_false_of_checkField undefined⟩

end Schema

end SchemaInference
