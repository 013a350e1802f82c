/-
This file fetches the values that paths lead to.
-/

import SchemaInference.Schema.Field

namespace SchemaInference

namespace Json

/-- A name selects a member. An index selects an item, or the member that its digits name. -/
def step? (segment : Segment) (value : Json) : Option Json :=
  match segment, value with
  | .field name, object members => members.lookup name
  | .index position, array items => items[position.toNat]?
  | .index _, object members => members.lookup segment.name
  | _, _ => none

def at? (document : Json) (path : Path) : Option Json :=
  path.foldlM (fun value segment => value.step? segment) document

end Json

inductive Resolved where
  | null
  | scalar (value : Json)
  | object (members : List (String × Json))
  | list (items : List Json)

def Resolved.value : Resolved → Json
  | null => .null
  | scalar value => value
  | object members => .object members
  | list items => .array items

namespace Strategy

/-- An absent value and a value of another shape resolve to null, or to no items in a list. -/
def apply (strategy : Strategy) (found : Option Json) : Resolved :=
  match strategy with
  | scalar kind =>
      match found.bind kind.coerce? with
      | some value => .scalar value
      | none => .null
  | object =>
      match found with
      | some (.object members) => .object members
      | _ => .null
  | array =>
      match found with
      | some (.array items) => .list items
      | _ => .list []
  | null => .null

def resolve (strategy : Strategy) (document : Json) (path : Path) : Resolved :=
  strategy.apply (document.at? path)

end Strategy

/-- A field resolves a path that ends at the field or at an item inside it. -/
def Field.resolve (field : Field) (document : Json) (path : Path) : Resolved :=
  (field.strategyAt path).resolve document path

end SchemaInference
