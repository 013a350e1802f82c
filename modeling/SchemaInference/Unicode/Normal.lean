/-
This file brings texts into the normal form NFC: marks stand in the order of their classes, and
sequences that have a composite are replaced by it.
-/

import SchemaInference.Unicode.CombiningClass
import SchemaInference.Unicode.Composite

namespace SchemaInference.Unicode

/-- A mark moves behind the marks of smaller classes. -/
def insertMark (character : Char) : List Char → List Char
  | [] => [character]
  | next :: rest =>
      if combiningClass next != 0 && combiningClass next < combiningClass character then
        next :: insertMark character rest
      else character :: next :: rest

def sortMarks (text : List Char) : List Char :=
  text.foldr insertMark []

/-- The last mark before a character of its class or a higher one blocks that character. -/
def isBlocked (marks : List Char) (character : Char) : Bool :=
  match marks with
  | [] => false
  | last :: _ => combiningClass last ≥ combiningClass character

/-- A starter waits with its marks, the last first, for characters that compose with it. -/
def composeWith (starter : Char) (marks : List Char) : List Char → List Char
  | [] => starter :: marks.reverse
  | character :: rest =>
      match if isBlocked marks character then none else composite? starter character with
      | some whole => composeWith whole marks rest
      | none =>
          if combiningClass character == 0 then
            starter :: marks.reverse ++ composeWith character [] rest
          else composeWith starter (character :: marks) rest

def compose : List Char → List Char
  | [] => []
  | first :: rest => composeWith first [] rest

def normalize (text : List Char) : List Char :=
  compose (sortMarks (text.flatMap parts))

end SchemaInference.Unicode
