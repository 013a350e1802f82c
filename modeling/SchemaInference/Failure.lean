/-
This file lists the ways in which an operation fails and gives each its message.
-/

import SchemaInference.Url.Fault

namespace SchemaInference

/-- A name belongs to a type or to a field. -/
inductive NameKind where
  | type
  | field
deriving DecidableEq

def NameKind.text : NameKind → String
  | type => "type"
  | field => "field"

inductive Failure where
  | configuration (message : String)
  | missingSetting (setting : String)
  | invalidSetting (setting message : String)
  | malformedYaml
  | malformedJson
  | unavailable (source message : String)
  | undecodable (message : String)
  | status (code : Nat) (body : String)
  | timeout (milliseconds : Nat)
  | invalidUrl (fault : Url.Fault)
  | assembly (message : String)
  | duplicateType (name : String)
  | invalidName (kind : NameKind) (name : String)
  | unknownField (path : String)
  | notPublished
  | inputOutput (message : String)
  | fileNotFound (path : String)
  | other (message : String)
deriving DecidableEq

namespace Failure

def message : Failure → String
  | configuration message => "Configuration error: " ++ message
  | missingSetting setting => "Missing required config field: " ++ setting
  | invalidSetting setting message => "Invalid config value for '" ++ setting ++ "': " ++ message
  | malformedYaml => "Failed to parse YAML"
  | malformedJson => "Failed to parse JSON"
  | unavailable source message => "Failed to fetch document from " ++ source ++ ": " ++ message
  | undecodable message => "Failed to decode document: " ++ message
  | status code body => "HTTP " ++ toString code ++ ": " ++ body
  | timeout milliseconds => "Request timeout after " ++ toString milliseconds ++ "ms"
  | invalidUrl fault => "Invalid URL: " ++ fault.message
  | assembly message => "Schema assembly failed: " ++ message
  | duplicateType name => "Type '" ++ name ++ "' is defined more than once"
  | invalidName kind name => "Invalid " ++ kind.text ++ " name '" ++ name ++ "'"
  | unknownField path => "No field in the schema matches path '" ++ path ++ "'"
  | notPublished => "No schema has been published yet"
  | inputOutput message => "IO error: " ++ message
  | fileNotFound path => "File not found: " ++ path
  | other message => message

def isTemporaryStatus (code : Nat) : Bool :=
  code == 429 || code == 500 || code == 502 || code == 503 || code == 504

/-- A failure is retryable when the same request may succeed later. -/
def isRetryable : Failure → Bool
  | unavailable _ _ => true
  | timeout _ => true
  | inputOutput _ => true
  | status code _ => isTemporaryStatus code
  | _ => false

/-- A failure inside a task keeps its message behind the name of the task. -/
def inside (failure : Failure) (task : String) : Failure :=
  other (task ++ ": " ++ failure.message)

end Failure

/-- The result of an operation that may fail. -/
abbrev Outcome (α : Type) := Except Failure α

end SchemaInference
