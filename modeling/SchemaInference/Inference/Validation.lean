/-
This file checks the names and references of a schema.
-/

import SchemaInference.Schema.Basic
import SchemaInference.Schema.Options

namespace SchemaInference

def isNameStart (character : Char) : Bool :=
  character == '_' || character.isAlpha

def isNamePart (character : Char) : Bool :=
  isNameStart character || Text.isDigit character

/-- An identifier has ASCII letters, digits and underscores and does not begin with a digit. -/
def isIdentifier (name : String) : Bool :=
  match name.toList with
  | [] => false
  | first :: rest => isNameStart first && rest.all isNamePart

namespace Schema

def checkName (options : Options) (kind : NameKind) (name : String) : Outcome Unit :=
  if options.strictNames && !isIdentifier name then .error (.invalidName kind name) else .ok ()

/-- A type has a name that is not taken by the given ones. -/
def checkTypeName (options : Options) (taken : List String) (name : String) : Outcome Unit := do
  checkName options .type name
  if taken.contains name then .error (.duplicateType name)

/-- A reference that is not a plain scalar has a built-in or defined base. -/
def isDefined (types : Dict ObjectType) (type : TypeRef) : Bool :=
  type.isScalar || ScalarKind.builtinNames.contains type.baseName || types.contains type.baseName

def undefinedMessage (object : ObjectType) (field : Field) : String :=
  "Field '" ++ object.name ++ "." ++ field.name ++ "' refers to undefined type '" ++
    field.type.baseName ++ "'"

def checkField (options : Options) (types : Dict ObjectType) (object : ObjectType)
    (field : Field) : Outcome Unit := do
  checkName options .field field.name
  if !isDefined types field.type then .error (.assembly (undefinedMessage object field))

/-- The first fault in the order of types and fields is reported, the names of types first. -/
def validate (schema : Schema) (options : Options) : Outcome Unit := do
  checkTypeName options ScalarKind.builtinNames schema.root.name
  schema.types.values.forM fun object =>
    checkTypeName options (schema.root.name :: ScalarKind.builtinNames) object.name
  schema.objectTypes.forM fun object =>
    object.fields.values.forM (checkField options schema.types object)

end Schema

end SchemaInference
