/-
This file defines schemas and walks paths through them.
-/

import SchemaInference.Schema.Field

namespace SchemaInference

/-- A composite type holds its fields under their names. -/
structure ObjectType where
  name : String
  fields : Dict Field
deriving DecidableEq

namespace ObjectType

def empty (name : String) : ObjectType :=
  ⟨name, .empty⟩

def addField (object : ObjectType) (field : Field) : ObjectType :=
  { object with fields := object.fields.insert field.name field }

def field? (object : ObjectType) (name : String) : Option Field :=
  object.fields.get? name

/-- A type without fields takes the fallback field. -/
def orFallback (object : ObjectType) (fallbackName : String) : ObjectType :=
  if object.fields.isEmpty then object.addField (.fallback fallbackName) else object

end ObjectType

/-- A schema has a root type and the composite types under their names. -/
structure Schema where
  root : ObjectType
  types : Dict ObjectType
deriving DecidableEq

/-- A path ends at a type inside its last field. -/
structure Located where
  field : Field
  type : TypeRef
  indexed : Bool
deriving DecidableEq

namespace Located

def ofField (field : Field) : Located :=
  ⟨field, field.type, false⟩

/-- A field has its own strategy, and an item inside it has the strategy of its type. -/
def strategy (located : Located) : Strategy :=
  if located.indexed then .ofType located.type else located.field.strategy

end Located

namespace Schema

def objectTypes (schema : Schema) : List ObjectType :=
  schema.root :: schema.types.values

/-- The name of the root type refers to the root. -/
def objectType? (schema : Schema) (name : String) : Option ObjectType :=
  if name = schema.root.name then some schema.root else schema.types.get? name

/-- A walk starts at the root type and goes on in the composite type that it has reached. -/
def container? (schema : Schema) : Option Located → Option ObjectType
  | none => some schema.root
  | some located => located.type.objectName?.bind schema.objectType?

def selectField? (schema : Schema) (current : Option Located) (segment : Segment) :
    Option Located :=
  ((schema.container? current).bind (·.field? segment.name)).map .ofField

/-- An index steps into a list. On any other type it names a field, as a name does. -/
def advance? (schema : Schema) (current : Option Located) (segment : Segment) : Option Located :=
  match current, segment with
  | some ⟨field, .list element, _⟩, .index _ => some ⟨field, element, true⟩
  | _, _ => schema.selectField? current segment

def walk? (schema : Schema) (path : Path) : Option (Option Located) :=
  path.foldlM (fun current segment => (schema.advance? current segment).map some) none

/-- The empty path selects no field. -/
def locate (schema : Schema) (path : Path) : Outcome Located :=
  match schema.walk? path with
  | some (some located) => .ok located
  | _ => .error (.unknownField (Path.name path))

end Schema

end SchemaInference
