/-
This file reads the arguments of the command line.
-/

import SchemaInference.LogLevel
import SchemaInference.Text.Numeral

namespace SchemaInference.CommandLine

/-- Results are written as JSON on one line or indented. -/
inductive OutputFormat where
  | json
  | pretty
deriving DecidableEq

def OutputFormat.ofName? (name : String) : Option OutputFormat :=
  if name = "json" then some json else if name = "pretty" then some pretty else none

/-- A schema is written as type definitions or as JSON. -/
inductive SchemaFormat where
  | sdl
  | json
deriving DecidableEq

def SchemaFormat.ofName? (name : String) : Option SchemaFormat :=
  if name = "sdl" then some sdl else if name = "json" then some json else none

/-- The document of a command comes from a file or from the web. -/
structure SourceArguments where
  document : Option String
  url : Option String
  timeoutSeconds : Nat
deriving DecidableEq

inductive Command where
  | infer (source : SourceArguments) (format : SchemaFormat) (maxDepth : Option Nat)
  | resolve (path : String) (source : SourceArguments)
  | watch (config : String)
  | validateConfig (config : String)
deriving DecidableEq

structure Invocation where
  logLevel : Option LogLevel
  format : OutputFormat
  command : Command
deriving DecidableEq

/-- Reading stops early at a fault or at a request for the version. -/
inductive Stop where
  | version
  | missingCommand
  | unknownCommand (name : String)
  | unknownOption (argument : String)
  | unexpectedValue (value : String)
  | missingValue (option : String)
  | repeatedOption (option : String)
  | invalidValue (option value : String)
  | missingOption (option : String)
  | conflict (first second : String)
deriving DecidableEq

def Stop.message : Stop → String
  | version => ""
  | missingCommand => "a command is required"
  | unknownCommand name => "unrecognized command '" ++ name ++ "'"
  | unknownOption argument => "unexpected argument '" ++ argument ++ "'"
  | unexpectedValue value => "unexpected argument '" ++ value ++ "'"
  | missingValue option => "a value is required for '--" ++ option ++ "'"
  | repeatedOption option => "the argument '--" ++ option ++ "' cannot be used multiple times"
  | invalidValue option value => "invalid value '" ++ value ++ "' for '--" ++ option ++ "'"
  | missingOption option => "the argument '--" ++ option ++ "' is required"
  | conflict first second =>
      "the argument '--" ++ first ++ "' cannot be used with '--" ++ second ++ "'"

/-- An option has a long name, may have a short one and accepts some values. -/
structure OptionRule where
  long : String
  short : Option Char
  accepts : String → Bool

namespace OptionRule

def isWord (value : String) : Bool :=
  (Text.word? value.toList).isSome

def logLevel : OptionRule :=
  ⟨"log-level", some 'l', fun value => (LogLevel.ofName? value).isSome⟩

def format : OptionRule :=
  ⟨"format", some 'f', fun value => (OutputFormat.ofName? value).isSome⟩

/-- The name of a file is not empty. -/
def document : OptionRule :=
  ⟨"document", some 'd', fun value => !value.isEmpty⟩

def url : OptionRule :=
  ⟨"url", some 'u', fun _ => true⟩

def timeoutSeconds : OptionRule :=
  ⟨"timeout-secs", none, isWord⟩

def schemaFormat : OptionRule :=
  ⟨"schema-format", none, fun value => (SchemaFormat.ofName? value).isSome⟩

def maxDepth : OptionRule :=
  ⟨"max-depth", none, isWord⟩

def config : OptionRule :=
  ⟨"config", some 'c', fun value => !value.isEmpty⟩

def shared : List OptionRule :=
  [logLevel, format]

def ofSource : List OptionRule :=
  [document, url, timeoutSeconds]

end OptionRule

/-- An argument is a plain value, or an option that may carry its value. -/
inductive Shape where
  | value
  | separator
  | long (name : List Char) (attached : Option (List Char))
  | short (letter : Char) (attached : List Char)

/-- A single dash is a plain value. -/
def Shape.of (argument : String) : Shape :=
  match argument.toList with
  | ['-', '-'] => separator
  | '-' :: '-' :: rest =>
      let name := rest.takeWhile (· != '=')
      long name (if name.length = rest.length then none else some (rest.drop (name.length + 1)))
  | '-' :: letter :: rest => short letter rest
  | _ => value

/-- The part of the arguments before a command and the part after it have rules of their own. -/
structure Level where
  rules : List OptionRule
  hasVersion : Bool
  stopsAtValue : Bool

/-- The options that are given, each with its value, and the plain values. -/
structure Given where
  options : List (String × String)
  values : List String

namespace Given

def addOption (name value : String) (given : Given) : Given :=
  { given with options := (name, value) :: given.options }

def addValue (value : String) (given : Given) : Given :=
  { given with values := value :: given.values }

def option? (given : Given) (rule : OptionRule) : Option String :=
  given.options.lookup rule.long

end Given

namespace Level

/-- This function finds the option that an argument names, with the value attached to it. -/
def option (level : Level) (argument : String) :
    Except Stop (Option (OptionRule × Option String)) :=
  let found (rule? : Option OptionRule) (attached : Option (List Char)) :
      Except Stop (Option (OptionRule × Option String)) :=
    match rule? with
    | some rule => .ok (some (rule, attached.map String.ofList))
    | none => .error (.unknownOption argument)
  match Shape.of argument with
  | .value => .ok none
  | .separator => .ok none
  | .long name attached =>
      if level.hasVersion && name == "version".toList && attached.isNone then .error .version
      else found (level.rules.find? fun rule => rule.long.toList == name) attached
  | .short letter attached =>
      if level.hasVersion && letter == 'V' then .error .version
      else
        let value := match attached with
          | '=' :: rest => some rest
          | [] => none
          | rest => some rest
        found (level.rules.find? fun rule => rule.short == some letter) value

/-- A value that looks like an option is not taken for the value of one. -/
def isPlain (argument : String) : Bool :=
  match Shape.of argument with
  | .value => true
  | _ => false

/-- An option is given once, with a value that it accepts. -/
def check (rule : OptionRule) (value : String) (seen : List String) : Except Stop Unit :=
  if !rule.accepts value then .error (.invalidValue rule.long value)
  else if seen.contains rule.long then .error (.repeatedOption rule.long)
  else .ok ()

/-- This function reads the arguments of one level from left to right. -/
def read (level : Level) (seen : List String) : List String → Except Stop Given
  | [] => .ok ⟨[], []⟩
  | argument :: rest => do
      match ← level.option argument with
      | none =>
          if argument == "--" then
            if level.stopsAtValue then .error .missingCommand else .ok ⟨[], rest⟩
          else if level.stopsAtValue then .ok ⟨[], argument :: rest⟩
          else return (← level.read seen rest).addValue argument
      | some (rule, some value) =>
          check rule value seen
          return (← level.read (rule.long :: seen) rest).addOption rule.long value
      | some (rule, none) =>
          match rest with
          | [] => .error (.missingValue rule.long)
          | value :: others =>
              if isPlain value then
                check rule value seen
                return (← level.read (rule.long :: seen) others).addOption rule.long value
              else .error (.missingValue rule.long)

end Level

/-- A command reads its own options and the shared ones. -/
def commandRules : String → Option (List OptionRule)
  | "infer" => some (OptionRule.ofSource ++ [.schemaFormat, .maxDepth])
  | "resolve" => some OptionRule.ofSource
  | "watch" => some [.config]
  | "validate-config" => some [.config]
  | _ => none

def naturalOption? (given : Given) (rule : OptionRule) : Option Nat :=
  ((given.option? rule).bind fun value => Text.word? value.toList).map UInt64.toNat

def SourceArguments.ofGiven (given : Given) : Except Stop SourceArguments :=
  let document := given.option? .document
  let url := given.option? .url
  if document.isSome && url.isSome then
    .error (.conflict OptionRule.document.long OptionRule.url.long)
  else .ok ⟨document, url, (naturalOption? given .timeoutSeconds).getD 30⟩

def configArgument (given : Given) : Except Stop String :=
  match given.option? .config with
  | some path => .ok path
  | none => .error (.missingOption OptionRule.config.long)

def noValues (given : Given) : Except Stop Unit :=
  match given.values with
  | [] => .ok ()
  | value :: _ => .error (.unexpectedValue value)

def Command.ofGiven (name : String) (given : Given) : Except Stop Command :=
  match name with
  | "infer" => do
      noValues given
      let format := ((given.option? .schemaFormat).bind SchemaFormat.ofName?).getD .sdl
      return .infer (← SourceArguments.ofGiven given) format (naturalOption? given .maxDepth)
  | "resolve" =>
      match given.values with
      | [path] => do return .resolve path (← SourceArguments.ofGiven given)
      | [] => .error (.missingValue "path")
      | _ :: value :: _ => .error (.unexpectedValue value)
  | "watch" => do
      noValues given
      return .watch (← configArgument given)
  | "validate-config" => do
      noValues given
      return .validateConfig (← configArgument given)
  | _ => .error (.unknownCommand name)

/-- A shared option after the command counts before the same option in front of it. -/
def sharedOption? (before after : Given) (rule : OptionRule) : Option String :=
  (after.option? rule).or (before.option? rule)

def Invocation.ofArguments (arguments : List String) : Except Stop Invocation := do
  let before ← Level.read ⟨OptionRule.shared, true, true⟩ [] arguments
  match before.values with
  | [] => .error .missingCommand
  | name :: rest =>
      match commandRules name with
      | none => .error (.unknownCommand name)
      | some rules =>
          let after ← Level.read ⟨rules ++ OptionRule.shared, false, false⟩ [] rest
          let command ← Command.ofGiven name after
          return {
            logLevel := (sharedOption? before after .logLevel).bind LogLevel.ofName?
            format := ((sharedOption? before after .format).bind OutputFormat.ofName?).getD .pretty
            command := command }

end SchemaInference.CommandLine
