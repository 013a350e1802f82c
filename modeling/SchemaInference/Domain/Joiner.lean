/-
This file checks the places of invisible joiners in a label.
-/

import SchemaInference.Unicode.CombiningClass
import SchemaInference.Unicode.Joining

namespace SchemaInference.Domain

open Unicode

def isNonJoiner (character : Char) : Bool :=
  character.toNat == 0x200C

def isJoiner (character : Char) : Bool :=
  character.toNat == 0x200D

/-- The nearest character that is not transparent joins in one of the given ways. -/
def joins (ways : List Joining) : List Char → Bool
  | [] => false
  | character :: rest =>
      if joining character = .transparent then joins ways rest
      else ways.contains (joining character)

/-- A joiner follows a virama. A non-joiner may also separate letters that would join. -/
def isPlaced (before : List Char) (character : Char) (after : List Char) : Bool :=
  if isNonJoiner character then
    before.head?.any isVirama || (joins [.left, .dual] before && joins [.right, .dual] after)
  else if isJoiner character then before.head?.any isVirama
  else true

/-- The characters before the rest are given from the last to the first. -/
def arePlaced (before : List Char) : List Char → Bool
  | [] => true
  | character :: rest =>
      isPlaced before character rest && arePlaced (character :: before) rest

end SchemaInference.Domain
