/-
This file writes a schema in the schema definition language.
-/

import SchemaInference.Schema.Basic

namespace SchemaInference

def Field.definition (field : Field) : List Char :=
  [' ', ' '] ++ field.name.toList ++ [':', ' '] ++ field.type.text ++ ['\n']

def ObjectType.definition (object : ObjectType) : List Char :=
  "type ".toList ++ object.name.toList ++ [' ', '\x7b', '\n'] ++
    object.fields.values.flatMap Field.definition ++ ['\x7d', '\n']

/-- The root type comes first and the other types follow in the order of their names. -/
def Schema.definition (schema : Schema) : List Char :=
  "schema \x7b\n  query: ".toList ++ schema.root.name.toList ++ ['\n', '\x7d', '\n'] ++
    schema.objectTypes.flatMap fun object => '\n' :: object.definition

def Schema.definitionText (schema : Schema) : String :=
  String.ofList schema.definition

end SchemaInference
