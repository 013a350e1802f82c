/-
This file gives schemas a JSON form and reads it back.
-/

import SchemaInference.Json.Record
import SchemaInference.Schema.Basic

namespace SchemaInference

/-! Writing -/

def ScalarKind.formName : ScalarKind → String
  | string => "string"
  | float => "float"
  | boolean => "boolean"

def ScalarKind.json (kind : ScalarKind) : Json :=
  .string kind.formName

def TypeRef.json : TypeRef → Json
  | scalar kind => .object [("scalar", kind.json)]
  | object name => .object [("object", .string name)]
  | list element => .object [("list", element.json)]

def Strategy.json : Strategy → Json
  | scalar kind => .object [("scalar", kind.json)]
  | object => .string "object"
  | array => .string "array"
  | null => .string "null"

/-- The members stand in the order of the structure, not of their keys. -/
def Field.json (field : Field) : Json :=
  .object [("name", .string field.name), ("type", field.type.json),
    ("resolution", field.strategy.json)]

def Dict.json {α : Type} (encode : α → Json) (dict : Dict α) : Json :=
  .object (dict.entries.map fun entry => (entry.1, encode entry.2))

def ObjectType.json (object : ObjectType) : Json :=
  .object [("name", .string object.name), ("fields", object.fields.json Field.json)]

def Schema.json (schema : Schema) : Json :=
  .object [("root", schema.root.json), ("types", schema.types.json ObjectType.json)]

/-! Reading -/

open Json (Tree)

def ScalarKind.ofFormName? (name : String) : Option ScalarKind :=
  if name = "string" then some string
  else if name = "float" then some float
  else if name = "boolean" then some boolean
  else none

def ScalarKind.read? (levels : Nat) (tree : Tree) : Option ScalarKind :=
  (tree.choice? levels).bind ofFormName?

def TypeRef.read? : Nat → Tree → Option TypeRef
  | levels + 1, .object [(some key, tree)] =>
      if key = "scalar" then (ScalarKind.read? levels tree).map scalar
      else if key = "object" then tree.text?.map object
      else if key = "list" then (TypeRef.read? levels tree).map list
      else none
  | _, _ => none

def Strategy.ofFormName? (name : String) : Option Strategy :=
  if name = "object" then some object
  else if name = "array" then some array
  else if name = "null" then some null
  else none

def Strategy.readScalar? : Nat → Tree → Option Strategy
  | levels + 1, .object [(some key, tree)] =>
      if key = "scalar" then (ScalarKind.read? levels tree).map scalar else none
  | _, _ => none

def Strategy.read? (levels : Nat) (tree : Tree) : Option Strategy :=
  (readScalar? levels tree).or ((tree.choice? levels).bind ofFormName?)

def Field.read? (levels : Nat) (tree : Tree) : Option Field :=
  Tree.within? (fun inner =>
    match tree.record? ["name", "type", "resolution"] with
    | some [some name, some type, some strategy] => do
        some ⟨← name.text?, ← TypeRef.read? inner type, ← Strategy.read? inner strategy⟩
    | _ => none) levels

def ObjectType.read? (levels : Nat) (tree : Tree) : Option ObjectType :=
  Tree.within? (fun inner =>
    match tree.record? ["name", "fields"] with
    | some [some name, some fields] => do
        some ⟨← name.text?, ← Tree.within? (fun deeper => fields.dict? (Field.read? deeper)) inner⟩
    | _ => none) levels

def Schema.read? (levels : Nat) (tree : Tree) : Option Schema :=
  Tree.within? (fun inner =>
    match tree.record? ["root", "types"] with
    | some [some root, some types] => do
        some ⟨← ObjectType.read? inner root,
          ← Tree.within? (fun deeper => types.dict? (ObjectType.read? deeper)) inner⟩
    | _ => none) levels

/-- This function reads the text of a form with a reader that counts brackets. -/
def Json.Tree.readForm {α : Type} (read : Nat → Tree → Option α) (text : String) : Outcome α :=
  match (Tree.read? text.toList).bind (read Tree.nestingLimit) with
  | some value => .ok value
  | none => .error .malformedJson

def Schema.ofText (text : String) : Outcome Schema :=
  Tree.readForm Schema.read? text

end SchemaInference
