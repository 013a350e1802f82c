/-
This file assembles the schema of a document.
-/

import SchemaInference.Inference.Builder
import SchemaInference.Inference.Validation

namespace SchemaInference

/-- An assembler works with fixed options and names. -/
structure Assembler where
  options : Options
  namer : Namer

namespace Assembler

/-- Types are named by their key and the suffix of the options. -/
def ofOptions (options : Options) : Assembler :=
  ⟨options, .withSuffix options.typeNameSuffix⟩

def builder (assembler : Assembler) (document : Json) : Builder :=
  ⟨assembler.options, assembler.namer, .collect document⟩

/-- The members of the document become the fields of the root type. A document that is no object
has none. -/
def build (assembler : Assembler) (document : Json) : Schema :=
  let (root, cache) := Builder.addFields ((assembler.builder document).fieldAt 0)
    (document.members?.getD []) (.empty assembler.options.rootTypeName) .empty
  ⟨root.orFallback assembler.options.fallbackField, cache.types⟩

def assemble (assembler : Assembler) (document : Json) : Outcome Schema := do
  let schema := assembler.build document
  schema.validate assembler.options
  return schema

end Assembler

end SchemaInference
