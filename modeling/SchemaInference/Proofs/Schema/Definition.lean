/-
This file shows that the schema definition language tells schemas with strict names apart, up to the
strategies of their fields.
-/

import SchemaInference.Proofs.Inference.Integrity
import SchemaInference.Proofs.Json.Shape
import SchemaInference.Proofs.Schema.Hook
import SchemaInference.Schema.Definition

namespace SchemaInference

/-! Schemas without strategies -/

def Dict.mapValues {α β : Type} (change : α → β) (dict : Dict α) : Dict β :=
  ⟨Entries.mapValues change dict.entries, Entries.ascending_mapValues dict.ascending⟩

/-- The same field with the strategy that resolves to nothing. -/
def Field.withoutStrategy (field : Field) : Field :=
  { field with strategy := .null }

def ObjectType.withoutStrategies (object : ObjectType) : ObjectType :=
  { object with fields := object.fields.mapValues Field.withoutStrategy }

/-- Two schemas agree in this part when they are equal except for the strategies of their fields. -/
def Schema.withoutStrategies (schema : Schema) : Schema :=
  ⟨schema.root.withoutStrategies, schema.types.mapValues ObjectType.withoutStrategies⟩

namespace Dict

variable {α β : Type} {first second : Dict α}

theorem values_mapValues (change : α → β) (dict : Dict α) :
    (dict.mapValues change).values = dict.values.map change := by
  simp [mapValues, values, Entries.mapValues]

/-- Values that know their keys determine the dictionary. -/
theorem mapValues_eq_of_values (change : α → β) (name : β → String)
    (firstKeyed : ∀ key value, first.get? key = some value → name (change value) = key)
    (secondKeyed : ∀ key value, second.get? key = some value → name (change value) = key)
    (same : first.values.map change = second.values.map change) :
    first.mapValues change = second.mapValues change := by
  have entries : ∀ dict : Dict α,
      (∀ key value, dict.get? key = some value → name (change value) = key) →
      (dict.mapValues change).entries =
        (dict.values.map change).map fun value => (name value, value) := by
    intro dict keyed
    show dict.entries.map (Prod.map id change) = ((dict.entries.map Prod.snd).map change).map _
    rw [List.map_map, List.map_map]
    refine List.map_congr_left fun entry listed => ?_
    have key := keyed entry.1 entry.2 (dict.ascending.lookup_of_mem listed)
    exact Prod.ext key.symm rfl
  have equal : (first.mapValues change).entries = (second.mapValues change).entries := by
    rw [entries first firstKeyed, entries second secondKeyed, same]
  exact ext_get? fun key => by rw [get?, get?, equal]

end Dict

/-! Names -/

theorem isNamePart_of_mem_identifier {name : String} (identifier : isIdentifier name = true)
    {character : Char} (listed : character ∈ name.toList) : isNamePart character = true := by
  unfold isIdentifier at identifier
  cases spelled : name.toList with
  | nil => simp [spelled] at listed
  | cons first rest =>
      rw [spelled] at identifier listed
      simp only [Bool.and_eq_true, List.all_eq_true] at identifier
      rcases List.mem_cons.mp listed with rfl | later
      · rw [isNamePart, identifier.1, Bool.true_or]
      · exact identifier.2 character later

/-- An identifier ends where a character follows that is no part of a name. -/
theorem identifier_append_inj {first second : String} (firstIdentifier : isIdentifier first = true)
    (secondIdentifier : isIdentifier second = true) {stop other : Char} {rest later : List Char}
    (stops : isNamePart stop = false) (otherStops : isNamePart other = false)
    (same : first.toList ++ stop :: rest = second.toList ++ other :: later) :
    first = second ∧ stop :: rest = other :: later := by
  have parts : ∀ (name : String) (stop : Char) (rest : List Char), isIdentifier name = true →
      isNamePart stop = false →
      (name.toList ++ stop :: rest).takeWhile isNamePart = name.toList ∧
        (name.toList ++ stop :: rest).dropWhile isNamePart = stop :: rest := by
    intro name stop rest identifier stops
    have all : ∀ character ∈ name.toList, isNamePart character = true :=
      fun _ listed => isNamePart_of_mem_identifier identifier listed
    rw [List.takeWhile_append_of_pos all, List.dropWhile_append_of_pos all]
    simp [stops]
  obtain ⟨firstTaken, firstLeft⟩ := parts first stop rest firstIdentifier stops
  obtain ⟨secondTaken, secondLeft⟩ := parts second other later secondIdentifier otherStops
  rw [same] at firstTaken firstLeft
  exact ⟨String.toList_inj.mp (firstTaken.symm.trans secondTaken), firstLeft.symm.trans secondLeft⟩

/-- An identifier does not begin with the bracket of a list. -/
theorem identifier_append_ne {name : String} (identifier : isIdentifier name = true)
    (rest later : List Char) : name.toList ++ rest ≠ '[' :: later := by
  intro same
  cases spelled : name.toList with
  | nil => simp [isIdentifier, spelled] at identifier
  | cons first others =>
      rw [spelled, List.cons_append, List.cons.injEq] at same
      have part : isNamePart '[' = true :=
        isNamePart_of_mem_identifier identifier (by simp [spelled, same.1])
      exact absurd part (by decide)

/-! References -/

namespace TypeRef

/-- The composite type inside a reference has a proper name and not that of a built-in type. -/
def Legible (type : TypeRef) : Prop :=
  ∀ name, type.compositeName? = some name →
    isIdentifier name = true ∧ name ∉ ScalarKind.builtinNames

variable {first second : TypeRef}

theorem Legible.isIdentifier_baseName (legible : first.Legible) :
    isIdentifier first.baseName = true := by
  induction first with
  | scalar kind => cases kind <;> rfl
  | object name => exact (legible name rfl).1
  | list element inductionHypothesis => exact inductionHypothesis legible

theorem text_of_listLevels_eq_zero (plain : first.listLevels = 0) :
    first.text = first.baseName.toList := by
  cases first with
  | list => cases plain
  | _ => rfl

/-- No composite type has a built-in name, so the name tells the kind of a reference. -/
theorem Legible.eq_of_baseName (firstLegible : first.Legible) (secondLegible : second.Legible)
    (firstPlain : first.listLevels = 0) (secondPlain : second.listLevels = 0)
    (same : first.baseName = second.baseName) : first = second := by
  have builtin : ∀ kind : ScalarKind, kind.typeName ∈ ScalarKind.builtinNames := fun kind => by
    cases kind <;> decide
  match first, second with
  | scalar kind, scalar otherKind =>
      cases kind <;> cases otherKind <;> simp [baseName, ScalarKind.typeName] at same ⊢
  | scalar kind, object name =>
      obtain rfl : kind.typeName = name := same
      exact absurd (builtin kind) (secondLegible _ rfl).2
  | object name, scalar kind =>
      obtain rfl : name = kind.typeName := same
      exact absurd (builtin kind) (firstLegible _ rfl).2
  | object name, object otherName => exact congrArg object same
  | list _, _ => cases firstPlain
  | _, list _ => cases secondPlain

section Ending

variable {stop other : Char} {rest later : List Char}

/-- The text of a reference without brackets is an identifier. -/
theorem Legible.text_append_inj_of_plain (firstLegible : first.Legible)
    (secondLegible : second.Legible) (plain : first.listLevels = 0)
    (stops : isNamePart stop = false) (otherStops : isNamePart other = false)
    (same : first.text ++ stop :: rest = second.text ++ other :: later) :
    first = second ∧ stop :: rest = other :: later := by
  rw [text_of_listLevels_eq_zero plain] at same
  cases levels : second.listLevels with
  | zero =>
      rw [text_of_listLevels_eq_zero levels] at same
      obtain ⟨names, tails⟩ := identifier_append_inj firstLegible.isIdentifier_baseName
        secondLegible.isIdentifier_baseName stops otherStops same
      exact ⟨firstLegible.eq_of_baseName secondLegible plain levels names, tails⟩
  | succ =>
      cases second with
      | list element =>
          exact absurd same (identifier_append_ne firstLegible.isIdentifier_baseName _ _)
      | _ => cases levels

/-- A written reference ends where a character follows that is no part of a name. -/
theorem Legible.text_append_inj (firstLegible : first.Legible) (secondLegible : second.Legible)
    (stops : isNamePart stop = false) (otherStops : isNamePart other = false)
    (same : first.text ++ stop :: rest = second.text ++ other :: later) :
    first = second ∧ stop :: rest = other :: later := by
  induction first generalizing second stop other rest later with
  | list element inductionHypothesis =>
      cases second with
      | list otherElement =>
          have bracket : isNamePart ']' = false := by decide
          have inside : otherElement.Legible := secondLegible
          simp only [text, List.cons_append, List.append_assoc, List.nil_append,
            List.cons.injEq, true_and] at same
          obtain ⟨elements, tails⟩ := inductionHypothesis firstLegible inside bracket bracket same
          exact ⟨congrArg list elements, List.tail_eq_of_cons_eq tails⟩
      | _ =>
          obtain ⟨types, tails⟩ :=
            secondLegible.text_append_inj_of_plain firstLegible rfl otherStops stops same.symm
          exact ⟨types.symm, tails.symm⟩
  | _ => exact firstLegible.text_append_inj_of_plain secondLegible rfl stops otherStops same

end Ending

end TypeRef

/-! Fields, types and schemas -/

/-- Items that are told apart in front of any text are told apart in a row, when the text after the
row does not begin like an item. -/
theorem map_eq_of_flatMap_append {α β : Type} {write : α → List Char} (view : α → β)
    {legible : α → Prop} {rest later : List Char}
    (apart : ∀ first second more others, legible first → legible second →
      write first ++ more = write second ++ others → view first = view second ∧ more = others)
    (ends : ∀ item more, write item ++ more ≠ rest)
    (laterEnds : ∀ item more, write item ++ more ≠ later)
    {first second : List α} (firstLegible : ∀ item ∈ first, legible item)
    (secondLegible : ∀ item ∈ second, legible item)
    (same : first.flatMap write ++ rest = second.flatMap write ++ later) :
    first.map view = second.map view ∧ rest = later := by
  induction first generalizing second with
  | nil =>
      cases second with
      | nil => exact ⟨rfl, same⟩
      | cons item others =>
          rw [List.flatMap_nil, List.nil_append, List.flatMap_cons, List.append_assoc] at same
          exact absurd same.symm (ends _ _)
  | cons item others inductionHypothesis =>
      rw [List.flatMap_cons, List.append_assoc] at same
      cases second with
      | nil => exact absurd same (laterEnds _ _)
      | cons other more =>
          rw [List.flatMap_cons, List.append_assoc] at same
          obtain ⟨legible, othersLegible⟩ := List.forall_mem_cons.mp firstLegible
          obtain ⟨otherLegible, moreLegible⟩ := List.forall_mem_cons.mp secondLegible
          obtain ⟨heads, tails⟩ := apart _ _ _ _ legible otherLegible same
          obtain ⟨views, ending⟩ := inductionHypothesis othersLegible moreLegible tails
          exact ⟨by rw [List.map_cons, List.map_cons, heads, views], ending⟩

/-- A field reads unambiguously when its name is an identifier and its type is legible. -/
structure Field.Legible (field : Field) : Prop where
  named : isIdentifier field.name = true
  typed : field.type.Legible

structure ObjectType.Legible (object : ObjectType) : Prop where
  named : isIdentifier object.name = true
  fields : ∀ field ∈ object.fields.values, field.Legible
  keyed : ∀ name field, object.fields.get? name = some field → field.name = name

structure Schema.Legible (schema : Schema) : Prop where
  objects : ∀ object ∈ schema.objectTypes, object.Legible
  keyed : ∀ name object, schema.types.get? name = some object → object.name = name

theorem Field.Legible.definition_append_inj {first second : Field} (firstLegible : first.Legible)
    (secondLegible : second.Legible) {rest later : List Char}
    (same : first.definition ++ rest = second.definition ++ later) :
    first.withoutStrategy = second.withoutStrategy ∧ rest = later := by
  have colon : isNamePart ':' = false := by decide
  have line : isNamePart '\n' = false := by decide
  simp only [definition, List.append_assoc, List.cons_append, List.nil_append, List.cons.injEq,
    true_and] at same
  obtain ⟨names, afterName⟩ :=
    identifier_append_inj firstLegible.named secondLegible.named colon colon same
  simp only [List.cons.injEq, true_and] at afterName
  obtain ⟨types, afterType⟩ :=
    firstLegible.typed.text_append_inj secondLegible.typed line line afterName
  exact ⟨by rw [withoutStrategy, withoutStrategy, names, types], List.tail_eq_of_cons_eq afterType⟩

theorem ObjectType.Legible.definition_append_inj {first second : ObjectType}
    (firstLegible : first.Legible) (secondLegible : second.Legible) {rest later : List Char}
    (same : first.definition ++ rest = second.definition ++ later) :
    first.withoutStrategies = second.withoutStrategies ∧ rest = later := by
  have space : isNamePart ' ' = false := by decide
  unfold definition at same
  simp only [List.append_assoc, List.append_cancel_left_eq, List.cons_append,
    List.nil_append] at same
  obtain ⟨names, afterName⟩ :=
    identifier_append_inj firstLegible.named secondLegible.named space space same
  simp only [List.cons.injEq, true_and] at afterName
  have ends : ∀ field (more ending : List Char),
      Field.definition field ++ more ≠ '\x7d' :: '\n' :: ending := by
    simp [Field.definition]
  obtain ⟨fields, ending⟩ := map_eq_of_flatMap_append Field.withoutStrategy
    (fun _ _ _ _ legible otherLegible => legible.definition_append_inj otherLegible)
    (fun _ _ => ends _ _ _) (fun _ _ => ends _ _ _) firstLegible.fields secondLegible.fields
    afterName
  have dicts := Dict.mapValues_eq_of_values Field.withoutStrategy Field.name firstLegible.keyed
    secondLegible.keyed fields
  simp only [List.cons.injEq, true_and] at ending
  exact ⟨by rw [withoutStrategies, withoutStrategies, names, dicts], ending⟩

/-- The definition language writes legible schemas apart that differ in more than strategies. -/
theorem Schema.Legible.withoutStrategies_eq {first second : Schema} (firstLegible : first.Legible)
    (secondLegible : second.Legible) (same : first.definition = second.definition) :
    first.withoutStrategies = second.withoutStrategies := by
  have line : isNamePart '\n' = false := by decide
  have rootLegible := firstLegible.objects first.root List.mem_cons_self
  have otherRootLegible := secondLegible.objects second.root List.mem_cons_self
  unfold definition at same
  simp only [List.append_assoc, List.append_cancel_left_eq, List.cons_append,
    List.nil_append] at same
  obtain ⟨_, afterHeader⟩ :=
    identifier_append_inj rootLegible.named otherRootLegible.named line line same
  simp only [List.cons.injEq, true_and] at afterHeader
  rw [← List.append_nil (List.flatMap _ first.objectTypes),
    ← List.append_nil (List.flatMap _ second.objectTypes)] at afterHeader
  obtain ⟨objects, -⟩ := map_eq_of_flatMap_append ObjectType.withoutStrategies
    (fun _ _ _ _ legible otherLegible equal =>
      legible.definition_append_inj otherLegible (List.tail_eq_of_cons_eq equal))
    (fun _ _ => List.cons_ne_nil _ _) (fun _ _ => List.cons_ne_nil _ _) firstLegible.objects
    secondLegible.objects afterHeader
  obtain ⟨roots, types⟩ := List.cons.inj objects
  have dicts := Dict.mapValues_eq_of_values ObjectType.withoutStrategies ObjectType.name
    firstLegible.keyed secondLegible.keyed types
  rw [withoutStrategies, withoutStrategies, roots, dicts]

/-! Strategies do not show -/

theorem ObjectType.definition_withoutStrategies (object : ObjectType) :
    object.withoutStrategies.definition = object.definition := by
  unfold definition
  rw [withoutStrategies, Dict.values_mapValues, List.flatMap_map]
  rfl

theorem Schema.definition_withoutStrategies (schema : Schema) :
    schema.withoutStrategies.definition = schema.definition := by
  have objects : schema.withoutStrategies.objectTypes =
      schema.objectTypes.map ObjectType.withoutStrategies := by
    rw [objectTypes, objectTypes, withoutStrategies, Dict.values_mapValues, List.map_cons]
  unfold definition
  rw [objects, List.flatMap_map]
  simp only [ObjectType.definition_withoutStrategies]
  rfl

/-! Assembled schemas -/

/-- Strict names are identifiers, and the checks keep built-in names from composite types. -/
theorem Assembler.legible_of_assemble {assembler : Assembler} {document : Json} {schema : Schema}
    (strict : assembler.options.strictNames = true)
    (assembled : assembler.assemble document = .ok schema) : schema.Legible := by
  obtain ⟨rfl, checked⟩ := assemble_eq_ok_iff.mp assembled
  have consistent : (assembler.build document).Consistent := build_consistent
  refine ⟨fun object inside => ⟨?named, fun field member => ⟨?fieldNamed, ?typed⟩, ?keyed⟩,
    fun name object stored => (exists_makes stored).1⟩
  case named =>
    rcases List.mem_cons.mp inside with rfl | stored
    · exact checked.rootNamed strict
    · exact checked.typesNamed object stored strict
  case fieldNamed => exact checked.fieldsNamed object inside field member strict
  case typed =>
    -- A composite type that a field refers to is stored, and so it passed the checks.
    intro name composite
    obtain ⟨fieldName, found⟩ := Dict.mem_values_iff.mp member
    have known := types_contains_of_objectTypes inside ⟨fieldName, field, found, composite⟩
    obtain ⟨target, stored⟩ := Option.isSome_iff_exists.mp known
    have listed := Dict.mem_values_iff.mpr ⟨name, stored⟩
    obtain rfl := (exists_makes stored).1
    exact ⟨checked.typesNamed target listed strict, fun builtin =>
      checked.typesDistinct target listed (List.mem_cons_of_mem _ builtin)⟩
  case keyed => exact fun name field found => (consistent.of_mem inside name field found).1

/-- The definition language tells apart all schemas that are assembled with strict names and differ
in more than the strategies of their fields. -/
theorem Assembler.definitionText_eq_iff {first second : Schema}
    {assembler otherAssembler : Assembler} {document otherDocument : Json}
    (strict : assembler.options.strictNames = true)
    (otherStrict : otherAssembler.options.strictNames = true)
    (assembled : assembler.assemble document = .ok first)
    (otherAssembled : otherAssembler.assemble otherDocument = .ok second) :
    first.definitionText = second.definitionText ↔
      first.withoutStrategies = second.withoutStrategies := by
  constructor
  · intro same
    exact (legible_of_assemble strict assembled).withoutStrategies_eq
      (legible_of_assemble otherStrict otherAssembled) (String.ofList_injective same)
  · intro same
    rw [Schema.definitionText, Schema.definitionText, ← first.definition_withoutStrategies, same,
      second.definition_withoutStrategies]

/-- A document with an object and a null inside two lists. -/
def Assembler.nestedItem (members : List (String × Json)) : Json :=
  .object [("a", .array [.array [.object members, .null]])]

theorem Assembler.definitionText_eq_iff_fallback :
    ∃ first second,
      (ofOptions .standard).assemble (nestedItem []) = .ok first ∧
      (ofOptions .standard).assemble (nestedItem [("anyField", .string "")]) = .ok second ∧
      first ≠ second ∧ first.definitionText = second.definitionText := by
  let first := (ofOptions .standard).build (nestedItem [])
  let second := (ofOptions .standard).build (nestedItem [("anyField", .string "")])
  have assembled : (ofOptions .standard).assemble (nestedItem []) = .ok first := rfl
  have otherAssembled : (ofOptions .standard).assemble (nestedItem [("anyField", .string "")]) =
      .ok second := rfl
  have same : first.withoutStrategies = second.withoutStrategies := by decide
  exact ⟨first, second, assembled, otherAssembled, by decide,
    (definitionText_eq_iff rfl rfl assembled otherAssembled).mpr same⟩

end SchemaInference
