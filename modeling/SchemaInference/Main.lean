/-
This file is the program. It reads the file that a command names and writes the reply.
-/

import SchemaInference.CommandLine.Run

namespace SchemaInference.Program

open CommandLine

/-- A place that cannot be opened is told from one that can be opened but not read. -/
def stateOfError : IO.Error → FileState
  | .noFileOrDirectory _ _ _ => .absent
  | .inappropriateType _ 21 _ => .unreadable .directory
  | .inappropriateType _ _ _ => .unreadable .notDirectory
  | .invalidArgument _ 22 details => .unreadable (.other details)
  | .invalidArgument _ _ _ => .unreadable .longName
  | .permissionDenied _ _ _ => .unreadable .permissionDenied
  | failure => .unreadable (.other (toString failure))

/-- This function reads the state of one place in the file system. -/
def fileState (path : String) : IO FileState := do
  try
    return .contents (← IO.FS.readBinFile path)
  catch failure =>
    return stateOfError failure

/-- A run reads at most one file. -/
def files (arguments : List String) : IO Files := do
  match Invocation.ofArguments arguments with
  | .ok invocation =>
      match invocation.command.file? with
      | some path =>
          let state ← fileState path
          return fun _ => state
      | none => return fun _ => .absent
  | .error _ => return fun _ => .absent

/-- A watch rebuilds from its file once in every interval until it is interrupted. -/
partial def watch (path : String) (milliseconds : Nat) (service : Service) : IO Unit := do
  let source := Source.ofFile path (← fileState path)
  let rebuilt := (service.withSource source).rebuild
  IO.sleep (min milliseconds 0xFFFFFFFF).toUInt32
  watch path milliseconds rebuilt

/-- A source on the web cannot be watched without a transport. -/
def deliver : Reply → IO UInt32
  | .finished exitCode output errors => do
      IO.print output
      IO.eprint errors
      return exitCode.toUInt32
  | .watching config =>
      match config.source with
      | .file path => do
          let service := Service.start (.ofFile path .absent) config.assembler
          watch path config.refreshMilliseconds service
          return 0
      | .http url _ _ => do
          IO.eprintln ("Error: " ++ (missingTransport (.remote url)).message)
          return 1

end SchemaInference.Program

open SchemaInference in
def main (arguments : List String) : IO UInt32 := do
  Program.deliver (CommandLine.run (← Program.files arguments) arguments)
