/-
This file defines the values of a JSON document.
-/

import SchemaInference.Dict
import SchemaInference.Number.Basic

namespace SchemaInference

/-- An object lists its members. The values that are read hold them in ascending key order. -/
inductive Json where
  | null
  | boolean (value : Bool)
  | number (value : Number)
  | string (text : String)
  | array (items : List Json)
  | object (members : List (String × Json))

namespace Json

def member? (key : String) : Json → Option Json
  | object members => members.lookup key
  | _ => none

def isObject : Json → Bool
  | object _ => true
  | _ => false

/-- This function gives the members of an object. -/
def members? : Json → Option (List (String × Json))
  | object members => some members
  | _ => none

/-- The name of a kind of value. -/
def kindName : Json → String
  | null => "null"
  | boolean _ => "boolean"
  | number _ => "number"
  | string _ => "string"
  | array _ => "array"
  | object _ => "object"

mutual

/-- A canonical value holds the members of every object in ascending key order. -/
def Canonical : Json → Prop
  | array items => CanonicalItems items
  | object members => Entries.Ascending members ∧ CanonicalMembers members
  | _ => True

def CanonicalItems : List Json → Prop
  | [] => True
  | item :: rest => Canonical item ∧ CanonicalItems rest

def CanonicalMembers : List (String × Json) → Prop
  | [] => True
  | (_, value) :: rest => Canonical value ∧ CanonicalMembers rest

end

mutual

/-- This function puts the members of every object into ascending key order. -/
def canonical : Json → Json
  | array items => array (canonicalItems items)
  | object members => object (Entries.ofList (canonicalMembers members))
  | value => value

def canonicalItems : List Json → List Json
  | [] => []
  | item :: rest => canonical item :: canonicalItems rest

def canonicalMembers : List (String × Json) → List (String × Json)
  | [] => []
  | (key, value) :: rest => (key, canonical value) :: canonicalMembers rest

end

end Json

end SchemaInference
