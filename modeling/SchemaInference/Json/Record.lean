/-
This file reads records, dictionaries and choices from JSON trees.
-/

import SchemaInference.Json.Tree
import SchemaInference.Record

namespace SchemaInference.Json.Tree

/-- A record is an object, or an array that gives the first parts in order. -/
def record? (names : List String) : Tree → Option (List (Option Tree))
  | array items => Record.byPosition? names items
  | object members => Record.byName? names members
  | _ => none

def text? : Tree → Option String
  | string text => text
  | _ => none

/-- A brackets-counting reader runs inside one more bracket. -/
def within? {α : Type} (read : Nat → Option α) : Nat → Option α
  | 0 => none
  | levels + 1 => read levels

/-- Every member of an object is an entry. -/
def dict? {α : Type} (read : Tree → Option α) : Tree → Option (Dict α)
  | object members => do
      let entries ← members.mapM fun member => do
        let key ← member.1
        let value ← read member.2
        some (key, value)
      some (.ofList entries)
  | _ => none

/-- A choice without contents is its name, alone or as the key of a null. -/
def choice? (levels : Nat) : Tree → Option String
  | string name => name
  | object [(name, null)] => if levels = 0 then none else name
  | _ => none

end SchemaInference.Json.Tree
