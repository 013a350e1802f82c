/-
This file defines positions in YAML texts.
-/

import SchemaInference.Yaml.Character

namespace SchemaInference.Yaml

/-- Columns count characters, and the offset counts bytes. -/
structure Position where
  line : Nat
  column : Nat
  offset : Nat
deriving DecidableEq

namespace Position

def start : Position :=
  ⟨0, 0, 0⟩

def after (position : Position) (character : Char) : Position :=
  let offset := position.offset + character.utf8Size
  if isBreak character then ⟨position.line + 1, 0, offset⟩
  else ⟨position.line, position.column + 1, offset⟩

def afterAll (position : Position) (text : List Char) : Position :=
  text.foldl after position

end Position

end SchemaInference.Yaml
