/-
This file runs the commands of the command line on the contents of files.
-/

import SchemaInference.CommandLine.Arguments
import SchemaInference.Config.Reader
import SchemaInference.Schema.Definition
import SchemaInference.Service.Basic

namespace SchemaInference.CommandLine

def programName : String := "driftschema"

def programVersion : String := "0.1.0"

/-- A run sees the files by their names. -/
abbrev Files := String → FileState

/-- A reply has an exit code and what is written to the two outputs. A watch has none before it is
interrupted. -/
inductive Reply where
  | finished (exitCode : Nat) (output errors : String)
  | watching (config : Config)

namespace Reply

def succeeded (output : String) : Reply :=
  finished 0 output ""

def failed (failure : Failure) : Reply :=
  finished 1 "" ("Error: " ++ failure.message ++ "\n")

/-- A request for the version succeeds, and every other stop is a fault in the arguments. -/
def stopped : Stop → Reply
  | .version => succeeded (programName ++ " " ++ programVersion ++ "\n")
  | stop => finished 2 "" ("error: " ++ stop.message ++ "\n")

end Reply

/-- The members of every object that is written stand in the order of their keys. -/
def OutputFormat.write (format : OutputFormat) (value : Json) : String :=
  match format with
  | json => value.canonical.compactText ++ "\n"
  | pretty => value.canonical.indentedText ++ "\n"

def unreadableConfig (path reason : String) : Failure :=
  .configuration ("Failed to read config file '" ++ path ++ "': " ++ reason)

def loadConfig (files : Files) (path : String) : Outcome Config :=
  match files path with
  | .absent => .error (.fileNotFound path)
  | .unreadable fault => .error (unreadableConfig path fault.message)
  | .contents raw =>
      match String.fromUTF8? raw with
      | some text => Config.ofYaml text
      | none => .error (unreadableConfig path "stream did not contain valid UTF-8")

/-- Documents from the web need a transport, which these runs do not have. -/
def missingTransport (origin : Origin) : Failure :=
  .unavailable origin.describe "no transport for web documents"

def remoteSource (origin : Origin) : Source :=
  ⟨origin, .error (missingTransport origin)⟩

def SourceArguments.source (arguments : SourceArguments) (files : Files) : Outcome Source :=
  match arguments.document, arguments.url with
  | some path, none => .ok (.ofFile path (files path))
  | none, some url => (Origin.ofUrl url).map remoteSource
  | none, none => .error (.missingSetting "--document or --url")
  | some _, some _ =>
      .error (.configuration "Specify exactly one document source (--document or --url)")

def generation (files : Files) (arguments : SourceArguments) (options : Options) :
    Outcome Generation := do
  let source ← arguments.source files
  (Service.start source (.ofOptions options)).attempt

def inferText (files : Files) (arguments : SourceArguments) (schemaFormat : SchemaFormat)
    (maxDepth : Option Nat) (format : OutputFormat) : Outcome String := do
  let options := { Options.standard with
    maxDepth := maxDepth.getD Options.standard.maxDepth }
  let built ← generation files arguments options
  return match schemaFormat with
    | .sdl => built.schema.definitionText
    | .json => format.write built.schema.json

/-- The path is read before the document. -/
def readPath (text : String) : Outcome Path :=
  (Path.read text).mapError fun failure => failure.inside ("Invalid path '" ++ text ++ "'")

def resolveText (files : Files) (text : String) (arguments : SourceArguments)
    (format : OutputFormat) : Outcome String := do
  let path ← readPath text
  let built ← generation files arguments .standard
  let located ← built.schema.locate path
  let resolved ← built.resolve path
  return format.write (.object [("path", .string (Path.name path)),
    ("type", .string (String.ofList located.type.text)), ("value", resolved.value)])

def configText (config : Config) (format : OutputFormat) : String :=
  format.write (.object [("valid", .boolean true), ("source", .string config.source.describe),
    ("refresh_interval_secs", naturalJson config.refreshSeconds),
    ("max_depth", naturalJson config.options.maxDepth)])

def Invocation.run (invocation : Invocation) (files : Files) : Outcome Reply :=
  match invocation.command with
  | .infer source schemaFormat maxDepth =>
      (inferText files source schemaFormat maxDepth invocation.format).map .succeeded
  | .resolve path source =>
      (resolveText files path source invocation.format).map .succeeded
  | .watch path => do
      let config ← loadConfig files path
      let _ ← config.source.origin
      return .watching config
  | .validateConfig path => do
      let config ← loadConfig files path
      return .succeeded (configText config invocation.format)

/-- This function answers the arguments of one call of the program. -/
def run (files : Files) (arguments : List String) : Reply :=
  match Invocation.ofArguments arguments with
  | .error stop => .stopped stop
  | .ok invocation =>
      match invocation.run files with
      | .ok reply => reply
      | .error failure => .failed failure

/-- The file that an invocation reads first. -/
def Command.file? : Command → Option String
  | infer source _ _ => source.document
  | resolve _ source => source.document
  | watch config => some config
  | validateConfig config => some config

end SchemaInference.CommandLine
