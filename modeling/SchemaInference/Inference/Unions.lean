/-
This file collects, for every key of a document, the members of all its object values.
-/

import SchemaInference.Json.Value

namespace SchemaInference

/-- A bucket holds the members seen under a key. Its flag says whether a member was ever an
object. -/
structure Unions where
  buckets : Dict (Dict Bool)
deriving DecidableEq

namespace Unions

def empty : Unions :=
  ⟨.empty⟩

def bucket? (unions : Unions) (key : String) : Option (Dict Bool) :=
  unions.buckets.get? key

def contains (unions : Unions) (key : String) : Bool :=
  unions.buckets.contains key

def flag (bucket : Dict Bool) (key : String) : Bool :=
  (bucket.get? key).getD false

/-- A key without a bucket was never an object. -/
def isObject (unions : Unions) (key member : String) : Bool :=
  match unions.bucket? key with
  | some bucket => flag bucket member
  | none => false

/-- A flag that is set stays set. -/
def note (bucket : Dict Bool) (member : String × Json) : Dict Bool :=
  bucket.insert member.1 (flag bucket member.1 || member.2.isObject)

/-- An object without members still gives its key a bucket. -/
def record (unions : Unions) (key : String) (members : List (String × Json)) : Unions :=
  ⟨unions.buckets.insert key (members.foldl note ((unions.bucket? key).getD .empty))⟩

def recordValue (unions : Unions) (key : String) : Json → Unions
  | .object members => unions.record key members
  | _ => unions

mutual

/-- This function adds everything that occurs in a value, at any depth. -/
def visit : Unions → Json → Unions
  | unions, .object members => visitMembers unions members
  | unions, .array items => visitItems unions items
  | unions, _ => unions

def visitItems : Unions → List Json → Unions
  | unions, [] => unions
  | unions, item :: rest => visitItems (visit unions item) rest

def visitMembers : Unions → List (String × Json) → Unions
  | unions, [] => unions
  | unions, (key, value) :: rest => visitMembers (visit (unions.recordValue key value) value) rest

end

def collect (document : Json) : Unions :=
  empty.visit document

end Unions

end SchemaInference
