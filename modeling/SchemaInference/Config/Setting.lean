/-
This file defines settings, the values of a configuration that are read before their use is known.
-/

import SchemaInference.Dict
import SchemaInference.Record

namespace SchemaInference

/-- The value of a real number does not matter, since no setting is one. -/
inductive Setting where
  | null
  | truth (value : Bool)
  | natural (value : Nat)
  | integer (value : Int)
  | real
  | text (value : String)
  | list (items : List Setting)
  | table (members : List (Setting × Setting))

namespace Setting

def text? : Setting → Option String
  | text value => some value
  | _ => none

/-- An integer may be zero with a sign. -/
def natural? : Setting → Option Nat
  | natural value => some value
  | integer value => if 0 ≤ value then some value.toNat else none
  | _ => none

/-- A dictionary of texts takes the last of several values with one key. -/
def texts? : Setting → Option (Dict String)
  | table members => do
      let entries ← members.mapM fun member => do
        let key ← member.1.text?
        let value ← member.2.text?
        some (key, value)
      some (.ofList entries)
  | _ => none

/-- A key names a part of a record or counts the parts before it. No part has an empty name. -/
def partName? (names : List String) : Setting → Option String
  | text name => some name
  | natural place => some (names[place]?.getD "")
  | _ => none

/-- A record is a table or a positional list. -/
def record? (names : List String) : Setting → Option (List (Option Setting))
  | table members =>
      Record.byName? names (members.map fun member => (member.1.partName? names, member.2))
  | list items => Record.byPosition? names items
  | _ => none

/-- A missing part has its standard value. -/
def partOr {α : Type} (read? : Setting → Option α) (standard : α) : Option Setting → Option α
  | none => some standard
  | some setting => read? setting

end Setting

end SchemaInference
