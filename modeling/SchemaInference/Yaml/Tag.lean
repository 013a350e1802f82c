/-
This file reads tags. A tag is a sequence of bytes, written in full or with a handle that stands for
its beginning.
-/

import SchemaInference.Text.Numeral
import SchemaInference.Yaml.Character

namespace SchemaInference.Yaml

open Text

structure Tag where
  bytes : List UInt8
deriving DecidableEq

namespace Tag

def ofText (text : String) : Tag :=
  ⟨text.toUTF8.toList⟩

/-- The tag that is a mark and nothing else. -/
def mark : Tag :=
  ⟨[33]⟩

/-- The tags of the core schema begin with this text. -/
def coreHead : String :=
  "tag:yaml.org,2002:"

def core (name : String) : Tag :=
  ofText (coreHead ++ name)

/-- A local tag begins with an exclamation mark. -/
def isLocal (tag : Tag) : Bool :=
  tag.bytes.head? = some 33

/-- The name of a local tag is what follows the mark, or the mark itself if nothing does. -/
def localName? (tag : Tag) : Option String :=
  if tag = mark then some "!"
  else if tag.isLocal then String.fromUTF8? ⟨tag.bytes.tail.toArray⟩
  else none

end Tag

/-! Written tags -/

/-- Inside angle brackets and directives a comma and square brackets belong to a tag. -/
def isTagPart (full : Bool) (character : Char) : Bool :=
  isWordPart character ||
    [';', '/', '?', ':', '@', '&', '=', '+', '$', '.', '!', '~', '*', '\'', '(', ')',
      '%'].contains character ||
    (full && [',', '[', ']'].contains character)

/-- The first byte of an encoded character tells how many bytes follow it. -/
def followers? (byte : Nat) : Option Nat :=
  if byte < 0x80 then some 0
  else if byte / 32 = 6 then some 1
  else if byte / 16 = 14 then some 2
  else if byte / 8 = 30 then some 3
  else none

/-- The bytes of one character are escaped together. -/
def unescapeTag? : Nat → List Char → Option (List UInt8)
  | missing, '%' :: high :: low :: rest => do
      let byte ← hexNumeral? [high, low]
      let next ← if missing = 0 then followers? byte
        else if byte / 64 = 2 then some (missing - 1)
        else none
      (unescapeTag? next rest).map (UInt8.ofNat byte :: ·)
  | 0, character :: rest =>
      if character == '%' then none
      else (unescapeTag? 0 rest).map (UInt8.ofNat character.toNat :: ·)
  | 0, [] => some []
  | _, _ => none

/-- A zero byte ends a tag. -/
def tagBytes? (written : List Char) : Option (List UInt8) :=
  (unescapeTag? 0 written).map (·.takeWhile (· != 0))

/-- A written tag has a handle and a suffix. The empty handle stands for nothing. -/
structure WrittenTag where
  handle : List Char
  suffix : List UInt8

namespace WrittenTag

/-- A tag in angle brackets is written in full. -/
def readFull? (text : List Char) : Option (WrittenTag × List Char) :=
  let written := text.takeWhile (isTagPart true)
  match text.dropWhile (isTagPart true) with
  | '>' :: rest =>
      if written.isEmpty then none
      else (tagBytes? written).map fun bytes => (⟨[], bytes⟩, rest)
  | _ => none

/-- A handle ends with an exclamation mark and needs a suffix. Without a suffix the mark alone is a
tag. -/
def readShort? (text : List Char) : Option (WrittenTag × List Char) :=
  let word := text.takeWhile isWordPart
  match text.dropWhile isWordPart with
  | '!' :: after =>
      let written := after.takeWhile (isTagPart false)
      if written.isEmpty then none
      else (tagBytes? written).map fun bytes =>
        (⟨'!' :: word ++ ['!'], bytes⟩, after.dropWhile (isTagPart false))
  | after =>
      (tagBytes? (after.takeWhile (isTagPart false))).map fun bytes =>
        let suffix := word.map (fun character => UInt8.ofNat character.toNat) ++ bytes
        (if suffix.isEmpty then ⟨[], Tag.mark.bytes⟩ else ⟨['!'], suffix⟩,
          after.dropWhile (isTagPart false))

/-- The text follows the mark that begins a tag. A gap or, inside brackets, a comma ends the tag. -/
def read? (inFlow : Bool) (text : List Char) : Option (WrittenTag × List Char) := do
  let (tag, rest) ← match text with
    | '<' :: inner => readFull? inner
    | _ => readShort? text
  if beginsGap rest || (inFlow && rest.head? == some ',') then some (tag, rest) else none

end WrittenTag

/-! Handles -/

/-- The handles of a document and what they stand for. -/
abbrev Handles := List (List Char × List UInt8)

/-- These handles have a meaning in every document that does not give them another. -/
def standardHandles : Handles :=
  [(['!'], Tag.mark.bytes), (['!', '!'], Tag.coreHead.toUTF8.toList)]

def WrittenTag.resolve? (handles : Handles) (tag : WrittenTag) : Option Tag :=
  if tag.handle.isEmpty then some ⟨tag.suffix⟩
  else ((handles ++ standardHandles).lookup tag.handle).map fun head => ⟨head ++ tag.suffix⟩

end SchemaInference.Yaml
