/-
This file defines the log levels.
-/

namespace SchemaInference

inductive LogLevel where
  | trace
  | debug
  | info
  | warn
  | error
deriving DecidableEq

namespace LogLevel

def name : LogLevel → String
  | trace => "trace"
  | debug => "debug"
  | info => "info"
  | warn => "warn"
  | error => "error"

/-- The name in capitals. -/
def title : LogLevel → String
  | trace => "TRACE"
  | debug => "DEBUG"
  | info => "INFO"
  | warn => "WARN"
  | error => "ERROR"

def all : List LogLevel :=
  [trace, debug, info, warn, error]

/-- A level is named in lower case only. -/
def ofName? (name : String) : Option LogLevel :=
  all.find? fun level => level.name == name

end LogLevel

end SchemaInference
