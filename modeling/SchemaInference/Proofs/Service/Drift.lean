/-
This file shows that a document with steady keys is resolved without loss, however its objects
differ in their members.
-/

import SchemaInference.Service.Generation
import SchemaInference.Proofs.Inference.Located
import SchemaInference.Proofs.Resolved
import SchemaInference.Proofs.Scalar

namespace SchemaInference

open Builder

/-- An object and null are kept as they are, and so is a text. A number may be kept in digits and a
truth value by its name. -/
def Resolved.Keeps (resolved : Resolved) : Json → Prop
  | .null => resolved = .null
  | .boolean value => resolved = .scalar (.boolean value) ∨
      resolved = .scalar (.string (if value then "true" else "false"))
  | .number value => resolved = .scalar (.number value) ∨
      resolved = .scalar (.string (String.ofList value.text))
  | .string text => resolved = .scalar (.string text)
  | .array _ => False
  | .object members => resolved = .object members

/-- The string form of a scalar keeps it. -/
theorem Strategy.keeps_string {value : Json} {kind : ScalarKind}
    (scalar : value.scalarKind? = some kind) :
    ((Strategy.scalar .string).apply (some value)).Keeps value := by
  cases value with
  | string text => rfl
  | number value => exact Or.inr rfl
  | boolean value => cases value <;> exact Or.inr rfl
  | _ => cases scalar

/-- The form of a scalar in its own kind keeps it. -/
theorem Strategy.keeps_kind {value : Json} {kind : ScalarKind}
    (scalar : value.scalarKind? = some kind) :
    ((Strategy.scalar kind).apply (some value)).Keeps value := by
  rw [Strategy.apply, Option.bind_some, ScalarKind.coerce?_eq_self scalar]
  cases value with
  | string text => rfl
  | number value => exact Or.inl rfl
  | boolean value => exact Or.inl rfl
  | _ => cases scalar

namespace Builder

variable {builder : Builder} {document : Json}

theorem Call.Sound.type_eq (steady : document.Steady) {call : Call}
    (sound : call.Sound builder document)
    (deep : document.objectKeys.card ≤ builder.options.maxDepth) {value : Json}
    (occurs : (call.key, value) ∈ document.occurring) :
    (builder.callField call).type = if value.isObject then .object (builder.namer call.key)
      else .scalar (.of call.sample) :=
  sound.type_eq_of_levels steady.settled (sound.levels_pos deep) occurs

/-- The field of a sound call keeps every value of its key. -/
theorem Call.Sound.keeps (steady : document.Steady) {call : Call}
    (sound : call.Sound builder document)
    (deep : document.objectKeys.card ≤ builder.options.maxDepth) {value : Json}
    (occurs : (call.key, value) ∈ document.occurring) :
    ((builder.callField call).strategy.apply (some value)).Keeps value := by
  have shape := steady.settled.isObject_sample sound.sampled occurs
  rw [sound.callField_eq steady.settled (sound.levels_pos deep), shape]
  cases kind : value.scalarKind? with
  | none =>
      cases value with
      | object members => rfl
      | null => cases ScalarKind.of call.sample <;> rfl
      | array items => exact absurd occurs steady.settled.ne_array
      | _ => cases kind
  | some kind =>
      have plain : value.isObject = false := by
        cases value <;> first | rfl | cases kind
      rw [plain]
      show ((Strategy.scalar (.of call.sample)).apply (some value)).Keeps value
      cases sampleKind : call.sample.scalarKind? with
      | none =>
          have string : ScalarKind.of call.sample = .string := by
            cases sample : call.sample <;> simp_all [Json.scalarKind?, ScalarKind.of]
          rw [string]
          exact Strategy.keeps_string kind
      | some other =>
          rw [ScalarKind.of_eq sampleKind,
            steady.scalarKind?_sample sound.sampled occurs sampleKind kind]
          exact Strategy.keeps_kind kind

end Builder

namespace Assembler

open Json

variable {assembler : Assembler} {document : Json}

/-- A path of names to a value walks to the field of a sound call for the last name. -/
theorem exists_call_of_at? (assembler : Assembler)
    (injective : Function.Injective assembler.namer)
    (checked : (assembler.build document).Checked assembler.options) (steady : document.Steady)
    (deep : document.objectKeys.card ≤ assembler.options.maxDepth) {names : List String}
    {value : Json} (found : document.at? (names.map .field) = some value) (nonempty : names ≠ []) :
    ∃ call : Call, call.Sound (assembler.builder document) document ∧
      (call.key, value) ∈ document.occurring ∧
      (assembler.build document).walk? (names.map .field) =
        some (some (.ofField ((assembler.builder document).callField call))) := by
  have clear : ∀ name ∈ names.dropLast, ¬ assembler.BuiltAtCeiling document name := fun _ _ =>
    not_builtAtCeiling_of_card_le steady.settled deep
  obtain ⟨call, sound, _, _, occurs, walked⟩ :=
    exists_call_of_clear injective checked steady.settled found nonempty clear
  exact ⟨call, sound, occurs, walked⟩

end Assembler

namespace Generation

/-- Missing members lose no data. When the keys of a document are steady and its keys with objects
are no more than the levels, every path of names to a value is located at a type of its shape and
resolves to the value. -/
theorem resolve_keeps (options : Options) (suffix : String) (generation : Generation)
    (assembled : (Assembler.mk options (.withSuffix suffix)).assemble generation.document.value =
      .ok generation.schema)
    (steady : generation.document.value.Steady)
    (deep : generation.document.value.objectKeys.card ≤ options.maxDepth)
    (names : List String) (nonempty : names ≠ []) (value : Json)
    (found : generation.document.value.at? (names.map .field) = some value) :
    ∃ located resolved, generation.schema.locate (names.map .field) = .ok located ∧
      ((∃ typeName, located.type = .object typeName) ↔ ∃ members, value = .object members) ∧
      generation.resolve (names.map .field) = .ok resolved ∧ resolved.Keeps value := by
  obtain ⟨built, checked⟩ := Assembler.assemble_eq_ok_iff.mp assembled
  obtain ⟨call, sound, occurs, walked⟩ := Assembler.exists_call_of_at?
    ⟨options, .withSuffix suffix⟩ (Namer.withSuffix_injective suffix) (built ▸ checked) steady deep
    found nonempty
  have located := Schema.locate_eq_ok_iff.mpr walked
  rw [← built] at located
  refine ⟨_, _, located, ?_, ?_, sound.keeps steady deep occurs⟩
  · show (∃ typeName, (callField _ call).type = .object typeName) ↔ _
    rw [sound.type_eq steady deep occurs]
    cases value <;> simp [Json.isObject]
  · rw [resolve, located]
    show Except.ok (Strategy.resolve _ _ _) = _
    rw [Strategy.resolve, found]
    rfl

/-- The key `a` holds itself, and its first object lacks `x`. -/
def sparseDocument : Json :=
  .object [("a", .object [("a", .object [("x", .null)]), ("y", .string "t")]),
    ("b", .object [("a", .object [("x", .boolean true)])])]

theorem steady_sparseDocument : sparseDocument.Steady := by
  intro key
  have members : sparseDocument.occurring =
      [("a", .object [("a", .object [("x", .null)]), ("y", .string "t")]),
        ("a", .object [("x", .null)]), ("x", .null), ("y", .string "t"),
        ("b", .object [("a", .object [("x", .boolean true)])]),
        ("a", .object [("x", .boolean true)]), ("x", .boolean true)] := rfl
  rw [members]
  by_cases text : key = "y"
  · exact Or.inr ⟨.string, by simp [text, Json.scalarKind?]⟩
  by_cases truth : key = "x"
  · exact Or.inr ⟨.boolean, by simp [truth, Json.scalarKind?]⟩
  · refine Or.inl fun value inside => ?_
    simp only [List.mem_cons, Prod.mk.injEq, text, truth, false_and, false_or, or_false,
      List.not_mem_nil] at inside
    rcases inside with ⟨_, rfl⟩ | ⟨_, rfl⟩ | ⟨_, rfl⟩ | ⟨_, rfl⟩ <;> rfl

/-- The type of `a` is built without a value of `x`, and the value of `x` is kept by its name. -/
theorem resolve_keeps_sparse :
    (Assembler.mk .standard (.withSuffix "Object")).assemble sparseDocument =
        .ok ((Assembler.ofOptions .standard).build sparseDocument) ∧
      sparseDocument.Steady ∧
      sparseDocument.objectKeys.card ≤ Options.standard.maxDepth ∧
      sparseDocument.at? [.field "b", .field "a", .field "x"] = some (.boolean true) ∧
      (Generation.mk 1 ((Assembler.ofOptions .standard).build sparseDocument)
          ⟨sparseDocument, .empty⟩).resolve [.field "b", .field "a", .field "x"] =
        .ok (.scalar (.string "true")) ∧
      (Resolved.scalar (.string "true")).Keeps (.boolean true) := by
  have few : sparseDocument.objectKeys.card ≤ Options.standard.maxDepth := by decide
  have text : (Generation.mk 1 ((Assembler.ofOptions .standard).build sparseDocument)
      ⟨sparseDocument, .empty⟩).resolve [.field "b", .field "a", .field "x"] =
        .ok (.scalar (.string "true")) := rfl
  obtain ⟨_, resolved, _, _, resolves, keeps⟩ := resolve_keeps .standard "Object"
    ⟨1, (Assembler.ofOptions .standard).build sparseDocument, ⟨sparseDocument, .empty⟩⟩ rfl
    steady_sparseDocument few ["b", "a", "x"] (by decide) (.boolean true) rfl
  obtain rfl := Except.ok.inj (text.symm.trans resolves)
  exact ⟨rfl, steady_sparseDocument, few, rfl, text, keeps⟩

end Generation

end SchemaInference
