/-
This file defines generations. A generation keeps a schema with the document that it was built from.
-/

import SchemaInference.Document
import SchemaInference.Inference.Assembly
import SchemaInference.Resolution

namespace SchemaInference

/-- The number counts the successful rebuilds up to this one, without a bound. -/
structure Generation where
  number : Nat
  schema : Schema
  document : Document

namespace Generation

/-- The path selects a strategy in the schema, and the strategy fetches the value. -/
def resolve (generation : Generation) (path : Path) : Outcome Resolved :=
  (generation.schema.locate path).map fun located =>
    located.strategy.resolve generation.document.value path

/-- A summary counts the parts of a generation. -/
structure Summary where
  number : Nat
  rootFields : Nat
  types : Nat
  documentBytes : Nat
deriving DecidableEq

def summary (generation : Generation) : Summary where
  number := generation.number
  rootFields := generation.schema.root.fields.size
  types := generation.schema.types.size
  documentBytes := generation.document.raw.size

/-- This function fetches a document and assembles its schema. -/
def build (assembler : Assembler) (source : Source) (number : Nat) : Outcome Generation := do
  let document ← source.fetch
  let schema ← assembler.assemble document.value
  return ⟨number, schema, document⟩

end Generation

end SchemaInference
