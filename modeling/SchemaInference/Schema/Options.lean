/-
This file holds the options of one schema build.
-/

import SchemaInference.Dict

namespace SchemaInference

structure Options where
  /-- A value nested deeper than this becomes a string field. -/
  maxDepth : Nat
  rootTypeName : String
  fallbackField : String
  typeNameSuffix : String
  /-- Strict names are identifiers. -/
  strictNames : Bool
deriving DecidableEq

namespace Options

def standard : Options where
  maxDepth := 10
  rootTypeName := "RootQuery"
  fallbackField := "anyField"
  typeNameSuffix := "Object"
  strictNames := true

end Options

/-- A namer gives the composite type of a key its name. -/
abbrev Namer := String → String

namespace Namer

def withSuffix (suffix : String) : Namer :=
  fun key => key ++ suffix

/-- A table takes precedence over the name between a head and a suffix. -/
def ofTable (table : Dict String) (head suffix : String) : Namer :=
  fun key => (table.get? key).getD (head ++ key ++ suffix)

end Namer

end SchemaInference
