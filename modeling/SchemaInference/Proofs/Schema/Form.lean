/-
This file shows that the JSON form of a schema is read back as the schema.
-/

import SchemaInference.CommandLine.Run
import SchemaInference.Proofs.Json.Form
import SchemaInference.Proofs.Schema.Hook

namespace SchemaInference

open Json (Tree)

/-! Types and strategies -/

namespace TypeRef

theorem canonical_json (type : TypeRef) : type.json.canonical = type.json := by
  induction type with
  | scalar | object => rfl
  | list element inductionHypothesis =>
      rw [json, Json.canonical, Json.canonicalMembers, inductionHypothesis]
      rfl

theorem integral_json (type : TypeRef) : type.json.Integral := by
  induction type with
  | scalar kind => simp [json, ScalarKind.json]
  | object name => simp [json]
  | list element inductionHypothesis => simpa [json] using inductionHypothesis

/-- Each list level opens a bracket, and so does the name inside. -/
theorem read?_json {type : TypeRef} {levels : Nat} (shallow : type.listLevels < levels) :
    read? levels type.json.tree = some type := by
  induction type generalizing levels with
  | scalar kind =>
      obtain ⟨inner, rfl⟩ := Nat.exists_eq_add_of_lt shallow
      cases kind <;> rfl
  | object name =>
      obtain ⟨inner, rfl⟩ := Nat.exists_eq_add_of_lt shallow
      rfl
  | list element inductionHypothesis =>
      cases levels with
      | zero => exact absurd shallow (Nat.not_lt_zero _)
      | succ inner =>
          have read := inductionHypothesis (Nat.lt_of_succ_lt_succ shallow)
          show (read? inner element.json.tree).map list = _
          rw [read, Option.map_some]

theorem readsAs {type : TypeRef} {levels : Nat} (shallow : type.listLevels < levels) :
    type.json.ReadsAs (read? levels) type :=
  .of_canonical type.canonical_json (read?_json shallow)

end TypeRef

namespace Strategy

theorem canonical_json (strategy : Strategy) : strategy.json.canonical = strategy.json := by
  cases strategy <;> rfl

theorem integral_json (strategy : Strategy) : strategy.json.Integral := by
  cases strategy <;> simp [json, ScalarKind.json]

theorem read?_json (strategy : Strategy) (levels : Nat) :
    read? (levels + 1) strategy.json.tree = some strategy := by
  cases strategy with
  | scalar kind => cases kind <;> rfl
  | _ => rfl

theorem readsAs (strategy : Strategy) (levels : Nat) :
    strategy.json.ReadsAs (read? (levels + 1)) strategy :=
  .of_canonical strategy.canonical_json (strategy.read?_json levels)

end Strategy

/-! Records -/

namespace Field

theorem integral_json (field : Field) : field.json.Integral := by
  simp [json, field.type.integral_json, field.strategy.integral_json]

theorem read?_of_perm {field : Field} {levels : Nat} {type strategy : Tree}
    {members : List (Option String × Tree)}
    (perm : members.Perm [(some "name", .string (some field.name)), (some "type", type),
      (some "resolution", strategy)])
    (typeRead : TypeRef.read? levels type = some field.type)
    (strategyRead : Strategy.read? levels strategy = some field.strategy) :
    read? (levels + 1) (.object members) = some field := by
  have parts : (Tree.object members).record? ["name", "type", "resolution"] =
      some [some (.string (some field.name)), some type, some strategy] :=
    Record.byName?_perm _ perm
  simp [read?, Tree.within?, parts, Tree.text?, typeRead, strategyRead]

theorem readsAs {field : Field} {levels : Nat} (shallow : field.type.listLevels < levels) :
    field.json.ReadsAs (read? (levels + 1)) field := by
  obtain ⟨inner, rfl⟩ := Nat.exists_eq_add_of_lt shallow
  have type := TypeRef.readsAs shallow
  have strategy := field.strategy.readsAs (field.type.listLevels + inner)
  constructor
  case built => exact read?_of_perm (.refl _) type.built strategy.built
  case sorted =>
    obtain ⟨others, same, perm⟩ := Json.exists_tree_canonical [("name", .string field.name),
      ("type", field.type.json), ("resolution", field.strategy.json)] (by simp)
    rw [json, same]
    exact read?_of_perm perm type.sorted strategy.sorted

end Field

namespace ObjectType

variable {object : ObjectType}

theorem integral_json (object : ObjectType) : object.json.Integral := by
  have fields := Dict.integral_json fun field (_ : field ∈ object.fields.values) =>
    field.integral_json
  simpa [json] using fields

theorem read?_of_perm {levels : Nat} {fields : Tree} {members : List (Option String × Tree)}
    (perm : members.Perm [(some "name", .string (some object.name)), (some "fields", fields)])
    (fieldsRead : fields.dict? (Field.read? levels) = some object.fields) :
    read? (levels + 2) (.object members) = some object := by
  have parts : (Tree.object members).record? ["name", "fields"] =
      some [some (.string (some object.name)), some fields] :=
    Record.byName?_perm _ perm
  simp [read?, Tree.within?, parts, Tree.text?, fieldsRead]

theorem readsAs {levels : Nat}
    (shallow : ∀ field ∈ object.fields.values, field.type.listLevels < levels) :
    object.json.ReadsAs (read? (levels + 3)) object := by
  have fields := Dict.readsAs fun field listed => Field.readsAs (shallow field listed)
  constructor
  case built => exact read?_of_perm (.refl _) fields.built
  case sorted =>
    obtain ⟨others, same, perm⟩ := Json.exists_tree_canonical [("name", .string object.name),
      ("fields", object.fields.json Field.json)] (by simp)
    rw [json, same]
    exact read?_of_perm perm fields.sorted

end ObjectType

namespace Schema

variable {schema : Schema}

theorem integral_json (schema : Schema) : schema.json.Integral := by
  have types := Dict.integral_json fun object (_ : object ∈ schema.types.values) =>
    object.integral_json
  simpa [json, schema.root.integral_json] using types

theorem read?_of_perm {levels : Nat} {root types : Tree} {members : List (Option String × Tree)}
    (perm : members.Perm [(some "root", root), (some "types", types)])
    (rootRead : ObjectType.read? (levels + 1) root = some schema.root)
    (typesRead : types.dict? (ObjectType.read? levels) = some schema.types) :
    read? (levels + 2) (.object members) = some schema := by
  have parts : (Tree.object members).record? ["root", "types"] = some [some root, some types] :=
    Record.byName?_perm _ perm
  simp [read?, Tree.within?, parts, rootRead, typesRead]

/-- The brackets around a field of a stored type are five, and the type of the field has the levels
that are left. -/
theorem readsAs {levels : Nat} (shallow : ∀ object ∈ schema.objectTypes,
      ∀ field ∈ object.fields.values, field.type.listLevels < levels) :
    schema.json.ReadsAs (read? (levels + 5)) schema := by
  obtain ⟨rootShallow, typesShallow⟩ := List.forall_mem_cons.mp shallow
  have root : schema.root.json.ReadsAs (ObjectType.read? (levels + 4)) schema.root :=
    ObjectType.readsAs fun field listed => Nat.lt_succ_of_lt (rootShallow field listed)
  have types := Dict.readsAs fun object listed => ObjectType.readsAs (typesShallow object listed)
  constructor
  case built => exact read?_of_perm (.refl _) root.built types.built
  case sorted =>
    obtain ⟨others, same, perm⟩ := Json.exists_tree_canonical [("root", schema.root.json),
      ("types", schema.types.json ObjectType.json)] (by simp)
    rw [json, same]
    exact read?_of_perm perm root.sorted types.sorted

end Schema

/-! Texts -/

/-- The one line or the indented lines that are printed for a value spell its tree in the order of
the keys. -/
theorem CommandLine.OutputFormat.treeRead?_write (format : OutputFormat) {value : Json}
    (integral : value.Integral) :
    Json.Tree.read? (format.write value).toList = some value.canonical.tree := by
  have blank : ∀ character ∈ ['\n'], Json.Token.isSpace character = true :=
    List.forall_mem_singleton.mpr rfl
  cases format with
  | json =>
      rw [write, Json.compactText, String.toList_append, String.toList_ofList]
      exact Json.treeRead?_compact (Json.Integral.canonical value integral) blank
  | pretty =>
      rw [write, Json.indentedText, String.toList_append, String.toList_ofList]
      exact Json.treeRead?_indented (Json.Integral.canonical value integral) blank

namespace Schema

/-- The JSON form of a schema is read back as the same schema, whether it is written in the order of
the structures or printed in the order of the keys, on one line or indented. The limit leaves room
for types of this depth. -/
theorem ofText_json {schema : Schema} (shallow : ∀ object ∈ schema.objectTypes,
      ∀ field ∈ object.fields.values, field.type.listLevels ≤ 120) :
    ofText schema.json.indentedText = .ok schema ∧
      ∀ format : CommandLine.OutputFormat, ofText (format.write schema.json) = .ok schema := by
  have reads : schema.json.ReadsAs (read? (122 + 5)) schema :=
    readsAs fun object inside field listed =>
      Nat.lt_of_le_of_lt (shallow object inside field listed) (by decide)
  constructor
  · have spelled : Tree.read? (schema.json.indented ++ []) = some schema.json.tree :=
      Json.treeRead?_indented schema.integral_json nofun
    rw [List.append_nil, ← String.toList_ofList (l := schema.json.indented)] at spelled
    exact Tree.readForm_eq_ok spelled reads.built
  · intro format
    exact Tree.readForm_eq_ok (format.treeRead?_write schema.integral_json) reads.sorted

/-- A type inside a number of lists. -/
def nestedList : Nat → TypeRef
  | 0 => .object "\"\n"
  | levels + 1 => .list (nestedList levels)

/-- The names need escapes, differ from the keys that they are stored under or are empty. -/
def nestedSchema : Schema where
  root := ⟨"", .ofList [("a\\", ⟨"é", nestedList 120, .array⟩),
    ("b", ⟨"b", .scalar .float, .null⟩)]⟩
  types := .ofList [("\"\n", ⟨"other", .ofList [("", ⟨"", .scalar .string, .scalar .boolean⟩)]⟩)]

theorem ofText_json_nested :
    (∀ object ∈ nestedSchema.objectTypes, ∀ field ∈ object.fields.values,
      field.type.listLevels ≤ 120) ∧
    ofText nestedSchema.json.indentedText = .ok nestedSchema ∧
      ∀ format : CommandLine.OutputFormat,
        ofText (format.write nestedSchema.json) = .ok nestedSchema := by
  have shallow : ∀ object ∈ nestedSchema.objectTypes, ∀ field ∈ object.fields.values,
      field.type.listLevels ≤ 120 := by decide +kernel
  exact ⟨shallow, ofText_json shallow⟩

end Schema

end SchemaInference
