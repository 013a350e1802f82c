/-
This file decodes documents and describes the sources that they come from.
-/

import SchemaInference.Failure
import SchemaInference.Json.Printer
import SchemaInference.Json.Tree

namespace SchemaInference

/-- A document keeps the bytes that its value was decoded from. -/
structure Document where
  value : Json
  raw : ByteArray

namespace Document

def decodeValue? (raw : ByteArray) : Option Json :=
  (String.fromUTF8? raw).bind fun text => Json.read? text.toList

/-- The root of a document is an object. -/
def decode (raw : ByteArray) : Outcome Document :=
  match decodeValue? raw with
  | none => .error (.undecodable Failure.malformedJson.message)
  | some value =>
      if value.isObject then .ok ⟨value, raw⟩
      else .error (.undecodable ("Document root must be a JSON object, found " ++ value.kindName))

end Document

/-- An origin names the place of a document. -/
inductive Origin where
  | memory
  | file (path : String)
  | remote (url : String)
deriving DecidableEq

def Origin.describe : Origin → String
  | memory => "static document"
  | file path => "file " ++ path
  | remote url => "url " ++ url

/-- These faults keep the place from being read, although it is not absent. -/
inductive FileFault where
  | directory
  | notDirectory
  | longName
  | permissionDenied
  | other (message : String)
deriving DecidableEq

def FileFault.message : FileFault → String
  | directory => "Is a directory (os error 21)"
  | notDirectory => "Not a directory (os error 20)"
  | longName => "File name too long (os error 36)"
  | permissionDenied => "Permission denied (os error 13)"
  | other message => message

/-- A place in the file system holds nothing, a file with its bytes or something unreadable. -/
inductive FileState where
  | absent
  | unreadable (fault : FileFault)
  | contents (raw : ByteArray)

/-- A source answers every request with the same bytes or failure until it is changed. -/
structure Source where
  origin : Origin
  answer : Outcome ByteArray

namespace Source

def ofBytes (raw : ByteArray) : Source :=
  ⟨.memory, .ok raw⟩

/-- A value is served in its compact form. -/
def ofValue (value : Json) : Source :=
  ofBytes value.compactText.toUTF8

def unavailable (message : String) : Source :=
  ⟨.memory, .error (.unavailable Origin.memory.describe message)⟩

def ofFile (path : String) (state : FileState) : Source where
  origin := .file path
  answer := match state with
    | .absent => .error (.fileNotFound path)
    | .unreadable fault => .error (.unavailable (Origin.file path).describe fault.message)
    | .contents raw => .ok raw

def fetch (source : Source) : Outcome Document :=
  source.answer.bind Document.decode

end Source

end SchemaInference
