/-
This file defines what a format of configurations provides: it reads values from the parts of a
written configuration.
-/

import SchemaInference.Config.Setting

namespace SchemaInference

/-- A reading may fail. It counts down the aliases that it may still follow. -/
abbrev Reading := StateT Nat Option

namespace Reading

variable {α : Type}

def ofOption : Option α → Reading α
  | some value => pure value
  | none => failure

def run? (reading : Reading α) (aliases : Nat) : Option α :=
  (StateT.run reading aliases).map Prod.fst

end Reading

/-- A choice is one name of several. A source is split into its type and the settings of the rest.
-/
structure Format (Part : Type) where
  record : List String → Part → Reading (List (Option Part))
  text : Part → Reading String
  natural : Part → Reading Nat
  truth : Part → Reading Bool
  choice : Part → Reading String
  source : Part → Reading (String × Setting)

namespace Format

/-- A missing part has its standard value. -/
def partOr {Part α : Type} (read : Part → Reading α) (standard : α) : Option Part → Reading α
  | none => pure standard
  | some part => read part

end Format

end SchemaInference
