/-
This file reads block scalars, which consist of the indented lines below their header.
-/

import SchemaInference.Text.Numeral
import SchemaInference.Yaml.Character

namespace SchemaInference.Yaml.Block

open Text

/-- Stripping drops the line breaks at the end, and clipping keeps one of them. -/
inductive Chomping where
  | strip
  | clip
  | keep
deriving DecidableEq

structure Header where
  chomping : Chomping
  indentation : Option Nat
deriving DecidableEq

def chomping? : Char → Option Chomping
  | '-' => some .strip
  | '+' => some .keep
  | _ => none

/-- The marks of a header stand in either order. -/
def splitHeader : List Char → Header × List Char
  | first :: rest =>
      match chomping? first with
      | some chomping =>
          match rest with
          | digit :: after =>
              if isDigit digit then (⟨chomping, some (digitValue digit)⟩, after)
              else (⟨chomping, none⟩, rest)
          | [] => (⟨chomping, none⟩, [])
      | none =>
          if isDigit first then
            match rest with
            | mark :: after =>
                match chomping? mark with
                | some chomping => (⟨chomping, some (digitValue first)⟩, after)
                | none => (⟨.clip, some (digitValue first)⟩, rest)
            | [] => (⟨.clip, some (digitValue first)⟩, [])
          else (⟨.clip, none⟩, first :: rest)
  | [] => (⟨.clip, none⟩, [])

/-- Only a comment may stand between a header and the end of its line. -/
def afterLine? (text : List Char) : Option (List Char) :=
  match text.dropWhile isSpace with
  | [] => some []
  | character :: rest =>
      if character == '#' then some ((rest.dropWhile fun next => !isBreak next).drop 1)
      else if isBreak character then some rest
      else none

/-- An indentation of zero cannot be asked for. -/
def readHeader? (text : List Char) : Option (Header × List Char) := do
  let (header, rest) := splitHeader text
  if header.indentation = some 0 then none
  else some (header, ← afterLine? rest)

/-- The gap before the first line. The widest run of spaces at the start of a line is known. -/
structure Margin where
  breaks : List Char
  widest : Nat
  column : Nat
  rest : List Char

/-- No tab stands among the spaces that show the indentation. -/
def measure? (breaks : List Char) (widest column : Nat) : List Char → Option Margin
  | [] => some ⟨breaks, max widest column, column, []⟩
  | character :: rest =>
      if character == ' ' then measure? breaks widest (column + 1) rest
      else if character == '\t' then none
      else if isBreak character then measure? (breaks ++ [character]) (max widest column) 0 rest
      else some ⟨breaks, max widest column, column, character :: rest⟩

/-- The leading break ends the line before, and the trailing breaks end the empty lines after it.
A line that begins with a space is not folded. -/
structure Pause where
  leading : List Char
  trailing : List Char
  afterSpace : Bool

/-- Lines are folded where neither neighbour begins with a space. -/
def Pause.text (pause : Pause) (folded beforeSpace : Bool) : List Char :=
  if folded && pause.leading == ['\n'] && !pause.afterSpace && !beforeSpace then
    if pause.trailing.isEmpty then [' '] else pause.trailing
  else pause.leading ++ pause.trailing

def Pause.chomped (pause : Pause) : Chomping → List Char
  | .strip => []
  | .clip => pause.leading
  | .keep => pause.leading ++ pause.trailing

/-- A scan stands inside a line or in the pause between two lines. -/
inductive Place where
  | line (beganWithSpace : Bool)
  | between (pause : Pause) (column : Nat)

/-- How a block scalar is read: its lines are folded or not, and begin at the indentation. -/
structure Manner where
  folded : Bool
  indentation : Nat
  chomping : Chomping

def prepend (text : List Char) (scanned : List Char × List Char) : List Char × List Char :=
  (text ++ scanned.1, scanned.2)

/-- The first shallow character ends the scalar. -/
def scanLines? (manner : Manner) : Place → List Char → Option (List Char × List Char)
  | .line _, [] => some ([], [])
  | .between pause _, [] => some (pause.chomped manner.chomping, [])
  | .line beganWithSpace, character :: rest =>
      if isBreak character then
        scanLines? manner (.between ⟨[character], [], beganWithSpace⟩ 0) rest
      else (scanLines? manner (.line beganWithSpace) rest).map (prepend [character])
  | .between pause column, character :: rest =>
      if isBreak character then
        let longer := { pause with trailing := pause.trailing ++ [character] }
        scanLines? manner (.between longer 0) rest
      else if column < manner.indentation then
        if character == ' ' then scanLines? manner (.between pause (column + 1)) rest
        else if character == '\t' then none
        else some (pause.chomped manner.chomping, character :: rest)
      else if column = manner.indentation then
        let begun := isSpace character
        (scanLines? manner (.line begun) rest).map
          (prepend (pause.text manner.folded begun ++ [character]))
      else some (pause.chomped manner.chomping, character :: rest)

/-- An indentation that is asked for counts from the outer one. One that is not is the widest of the
first line and the empty lines before it, but deeper than the outer one. -/
def scan? (folded : Bool) (outer : Option Nat) (text : List Char) :
    Option (List Char × List Char) := do
  let (header, body) ← readHeader? text
  match header.indentation with
  | some deeper =>
      scanLines? ⟨folded, outer.getD 0 + deeper, header.chomping⟩ (.between ⟨[], [], false⟩ 0) body
  | none =>
      let margin ← measure? [] 0 0 body
      let least := match outer with
        | some column => column + 1
        | none => 1
      scanLines? ⟨folded, max margin.widest least, header.chomping⟩
        (.between ⟨[], margin.breaks, false⟩ margin.column) margin.rest

end SchemaInference.Yaml.Block
