/-
This file defines references to types and the strategies that fetch a value of each type.
-/

import SchemaInference.Scalar

namespace SchemaInference

/-- A reference names a built-in scalar or a composite type, or it is a list of references. -/
inductive TypeRef where
  | scalar (kind : ScalarKind)
  | object (name : String)
  | list (element : TypeRef)
deriving DecidableEq

namespace TypeRef

/-- The written form puts one pair of brackets around the name for each list level. -/
def text : TypeRef → List Char
  | scalar kind => kind.typeName.toList
  | object name => name.toList
  | list element => '[' :: element.text ++ [']']

/-- The innermost name of a reference. -/
def baseName : TypeRef → String
  | scalar kind => kind.typeName
  | object name => name
  | list element => element.baseName

/-- This function gives the composite type that a reference names directly. -/
def objectName? : TypeRef → Option String
  | object name => some name
  | _ => none

def isScalar : TypeRef → Bool
  | scalar _ => true
  | _ => false

/-- This function removes a number of list levels. -/
def unwrap? : Nat → TypeRef → Option TypeRef
  | 0, type => some type
  | levels + 1, list element => unwrap? levels element
  | _ + 1, _ => none

end TypeRef

/-- A strategy says how the value of a field is fetched. -/
inductive Strategy where
  | scalar (kind : ScalarKind)
  | object
  | array
  | null
deriving DecidableEq

/-- Every type has its own strategy. -/
def Strategy.ofType : TypeRef → Strategy
  | .scalar kind => scalar kind
  | .object _ => object
  | .list _ => array

end SchemaInference
