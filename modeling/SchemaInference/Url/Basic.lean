/-
This file reads URLs without a base, as far as their schemes, hosts and ports decide.
-/

import SchemaInference.Url.Host

namespace SchemaInference

/-- A URL is known by its scheme. The parts after the port are not kept, since every text is valid
there. -/
structure Url where
  scheme : String
deriving DecidableEq

namespace Url

open Text

/-- Control characters and spaces around a URL are dropped, and tabs and line breaks inside it. -/
def clean (text : List Char) : List Char :=
  let isOuter (character : Char) : Bool := character.toNat ≤ 0x20
  let inner := ((text.dropWhile isOuter).reverse.dropWhile isOuter).reverse
  inner.filter fun character => character != '\t' && character != '\n' && character != '\r'

def isSchemePart (character : Char) : Bool :=
  character.isAlphanum || character == '+' || character == '-' || character == '.'

/-- A scheme begins with a letter and ends at a colon. -/
def splitScheme? : List Char → Option (List Char × List Char)
  | first :: rest =>
      if first.isAlpha then
        match rest.dropWhile isSchemePart with
        | ':' :: after => some ((first :: rest.takeWhile isSchemePart).map Char.toLower, after)
        | _ => none
      else none
  | [] => none

/-- The schemes of the web treat a backslash as a slash and need a host. -/
inductive SchemeKind where
  | web
  | file
  | other
deriving DecidableEq

def SchemeKind.of (scheme : String) : SchemeKind :=
  if ["http", "https", "ws", "wss", "ftp"].contains scheme then web
  else if scheme = "file" then file
  else other

def endsAuthority (kind : SchemeKind) (character : Char) : Bool :=
  character == '/' || character == '?' || character == '#' || (kind != .other && character == '\\')

/-- This function cuts a text after its last at sign. -/
def splitUser? (authority : List Char) : Option (List Char × List Char) :=
  let host := (authority.reverse.takeWhile (· != '@')).reverse
  if host.length = authority.length then none
  else some (authority.take (authority.length - host.length - 1), host)

/-- A colon ends the host unless it stands in brackets. -/
def splitHost (inside : Bool) : List Char → List Char × List Char
  | [] => ([], [])
  | ':' :: rest =>
      if inside then (':' :: (splitHost inside rest).1, (splitHost inside rest).2)
      else ([], ':' :: rest)
  | character :: rest =>
      let within := if character = '[' then true else if character = ']' then false else inside
      (character :: (splitHost within rest).1, (splitHost within rest).2)

/-- A port is a decimal number of 16 bits, or nothing. -/
def checkPort (port : List Char) : Except Fault Unit :=
  let written := port.takeWhile (· != '\\')
  if written.all isDigit && numeralValue written < 65536 then .ok () else .error .invalidPort

def checkHostPort (kind : SchemeKind) (hasUser : Bool) (text : List Char) : Except Fault Unit := do
  let (host, port) := splitHost false text
  if host.isEmpty && (kind != .other || hasUser || !port.isEmpty) then .error .emptyHost
  else
    if kind = .other then checkOpaqueHost host else checkHost host
    checkPort (port.drop 1)

/-- An authority has a host and may have a user before it and a port after it. -/
def checkAuthority (kind : SchemeKind) (text : List Char) : Except Fault Unit :=
  let authority := text.takeWhile fun character => !endsAuthority kind character
  match splitUser? authority with
  | none => checkHostPort kind false authority
  | some (user, host) =>
      if user.isEmpty && host.isEmpty && authority.length < text.length then .error .emptyHost
      else checkHostPort kind (user.any (· != ':') || user.length > 1) host

def isSlash (character : Char) : Bool :=
  character == '/' || character == '\\'

/-- A drive letter after two slashes is no host. -/
def isDriveLetter : List Char → Bool
  | [letter, mark] => letter.isAlpha && (mark == ':' || mark == '|')
  | _ => false

def checkFile : List Char → Except Fault Unit
  | first :: second :: rest =>
      let host := rest.takeWhile fun character => !endsAuthority .file character
      if isSlash first && isSlash second && !host.isEmpty && !isDriveLetter host then checkHost host
      else .ok ()
  | _ => .ok ()

/-- Of the other schemes only those with two slashes have an authority. -/
def checkRest (kind : SchemeKind) (text : List Char) : Except Fault Unit :=
  match kind, text with
  | .web, _ => checkAuthority kind (text.dropWhile isSlash)
  | .file, _ => checkFile text
  | .other, '/' :: '/' :: rest => checkAuthority kind rest
  | .other, _ => .ok ()

/-- This function reads a text as a URL of its own. -/
def read (text : String) : Except Fault Url :=
  match splitScheme? (clean text.toList) with
  | none => .error .relative
  | some (scheme, rest) => do
      let name := String.ofList scheme
      checkRest (.of name) rest
      return ⟨name⟩

end Url

end SchemaInference
