/-
This file checks the hosts of URLs: domain names, IPv4 addresses and IPv6 addresses.
-/

import SchemaInference.Domain.Name
import SchemaInference.Text.Cut
import SchemaInference.Text.Numeral
import SchemaInference.Url.Fault

namespace SchemaInference.Url

open Text

/-! Domain names -/

/-- An escaped byte stands for itself. A percent sign without two digits is kept. -/
def unescape : List Char → List UInt8
  | '%' :: high :: low :: rest =>
      match hexValue? high, hexValue? low with
      | some first, some second => UInt8.ofNat (16 * first + second) :: unescape rest
      | _, _ => UInt8.ofNat '%'.toNat :: unescape (high :: low :: rest)
  | character :: rest => (String.singleton character).toUTF8.toList ++ unescape rest
  | [] => []

/-- A domain name may hold escaped bytes. -/
def domain? (host : List Char) : Option Domain.Name :=
  (String.fromUTF8? ⟨(unescape host).toArray⟩).bind fun decoded => Domain.Name.read? decoded.toList

/-! IPv4 addresses -/

/-- The radix of a number is shown by how it begins. -/
def splitRadix : List Char → Nat × List Char
  | '0' :: 'x' :: rest => (16, rest)
  | '0' :: second :: rest => (8, second :: rest)
  | text => (10, text)

/-- Without digits after the radix the number is zero. -/
def radixNumber? (text : List Char) : Option Nat :=
  if text.isEmpty then none
  else
    let (radix, written) := splitRadix text
    radixNumeral? radix written

/-- A last label that reads as a number makes a domain name an address. -/
def endsInNumber (name : Domain.Name) : Bool :=
  let last := match name.reverse with
    | [] :: before :: _ => before
    | last :: _ => last
    | [] => []
  (!last.isEmpty && last.all isDigit) || (radixNumber? last).isSome

/-- The last number fills the bytes that the numbers before it leave. -/
def isIpv4 (name : Domain.Name) : Bool :=
  let parts := if name.getLast? == some [] then name.dropLast else name
  match parts.mapM radixNumber? with
  | none => false
  | some numbers =>
      numbers.length ≤ 4 && numbers.dropLast.all (· ≤ 255) &&
        (numbers.getLast?.getD 0) < Nat.pow 256 (5 - numbers.length)

/-! IPv6 addresses -/

def isHexPiece (piece : List Char) : Bool :=
  !piece.isEmpty && piece.length ≤ 4 && piece.all fun character => (hexValue? character).isSome

/-- A decimal byte has no leading zero. -/
def isDecimalByte (part : List Char) : Bool :=
  !part.isEmpty && part.all isDigit && numeralValue part ≤ 255 &&
    (part.length == 1 || part.head? != some '0')

def isDottedQuad (piece : List Char) : Bool :=
  let parts := cutAt '.' piece
  parts.length == 4 && parts.all isDecimalByte

/-- This function counts 16-bit pieces. A dotted quad may end the address and counts twice. -/
def countPieces? (dottedAllowed : Bool) : List (List Char) → Option Nat
  | [] => some 0
  | [last] =>
      if isHexPiece last then some 1
      else if dottedAllowed && isDottedQuad last then some 2
      else none
  | piece :: rest =>
      if isHexPiece piece then (countPieces? dottedAllowed rest).map (· + 1) else none

def countSide? (dottedAllowed : Bool) (side : List Char) : Option Nat :=
  if side.isEmpty then some 0 else countPieces? dottedAllowed (cutAt ':' side)

/-- This function cuts a text at its first double colon. -/
def cutAtGap : List Char → List Char × Option (List Char)
  | ':' :: ':' :: rest => ([], some rest)
  | character :: rest => (character :: (cutAtGap rest).1, (cutAtGap rest).2)
  | [] => ([], none)

/-- An address has eight pieces, or fewer around one gap. -/
def isIpv6 (text : List Char) : Bool :=
  match cutAtGap text with
  | (whole, none) => countSide? true whole == some 8
  | (left, some right) =>
      match countSide? false left, countSide? true right with
      | some before, some after => before + after ≤ 7
      | _, _ => false

/-! Hosts -/

/-- A host in brackets is an IPv6 address. -/
def bracketed? : List Char → Option (Except Fault Unit)
  | '[' :: rest =>
      if rest.getLast? == some ']' && isIpv6 rest.dropLast then some (.ok ())
      else some (.error .invalidIpv6)
  | _ => none

/-- The host of a web address is a domain name or an address. -/
def checkHost (host : List Char) : Except Fault Unit :=
  match bracketed? host with
  | some checked => checked
  | none =>
      match domain? host with
      | none => .error .invalidDomain
      | some name =>
          if !name.hasText then .error .emptyHost
          else if endsInNumber name && !isIpv4 name then .error .invalidIpv4
          else .ok ()

def isForbiddenInHost (character : Char) : Bool :=
  ['\x00', '\t', '\n', '\r', ' ', '#', '/', ':', '<', '>', '?', '@', '[', '\\', ']', '^',
    '|'].contains character

/-- The host of another scheme is any text without separators. -/
def checkOpaqueHost (host : List Char) : Except Fault Unit :=
  match bracketed? host with
  | some checked => checked
  | none => if host.any isForbiddenInHost then .error .invalidHostCharacter else .ok ()

end SchemaInference.Url
