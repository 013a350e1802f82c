/-
This file reads directives, which stand on lines of their own before a document.
-/

import SchemaInference.Yaml.Block
import SchemaInference.Yaml.Token

namespace SchemaInference.Yaml.Directive

open Text

/-- The numbers of a version have at most nine digits. -/
def readVersionNumber? (text : List Char) : Option (Nat × List Char) :=
  let digits := text.takeWhile isDigit
  if digits.isEmpty || 9 < digits.length then none
  else some (numeralValue digits, text.dropWhile isDigit)

def readVersion? (text : List Char) : Option (Directive × List Char) := do
  match ← readVersionNumber? (text.dropWhile isSpace) with
  | (major, '.' :: after) =>
      let (minor, rest) ← readVersionNumber? after
      some (version major minor, rest)
  | _ => none

/-- A handle is one exclamation mark, or a word between two. -/
def readHandleName? : List Char → Option (List Char × List Char)
  | '!' :: text =>
      let word := text.takeWhile isWordPart
      match text.dropWhile isWordPart with
      | '!' :: rest => some ('!' :: word ++ ['!'], rest)
      | rest => if word.isEmpty then some (['!'], rest) else none
  | _ => none

def readHandle? (text : List Char) : Option (Directive × List Char) := do
  let (name, after) ← readHandleName? (text.dropWhile isSpace)
  let spaced := after.dropWhile isSpace
  let written := spaced.takeWhile (isTagPart true)
  let rest := spaced.dropWhile (isTagPart true)
  if !(after.head?.any isSpace) || written.isEmpty || !beginsGap rest then none
  else some (handle name (← tagBytes? written), rest)

/-- The text follows the percent sign. The whole line is read. -/
def read? (text : List Char) : Option (Directive × List Char) := do
  let name := text.takeWhile isWordPart
  let after := text.dropWhile isWordPart
  if !beginsGap after then none
  let (directive, rest) ← if name = ['Y', 'A', 'M', 'L'] then readVersion? after
    else if name = ['T', 'A', 'G'] then readHandle? after
    else none
  some (directive, ← Block.afterLine? rest)

end SchemaInference.Yaml.Directive
