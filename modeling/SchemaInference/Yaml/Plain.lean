/-
This file reads plain scalars, which have no quotes and may go on over several lines.
-/

import SchemaInference.Yaml.Fold

namespace SchemaInference.Yaml.Plain

/-- The scalar stands inside brackets or not. Outside them its further lines begin at the least
column or a later one. -/
structure Surroundings where
  inFlow : Bool
  leastColumn : Nat

/-- What is left after a plain scalar and the gap behind it. -/
structure Scanned where
  text : List Char
  broken : Bool
  rest : List Char

/-- After a gap a shallow line, a document mark or a comment ends the scalar. -/
def endsAfterGap (surroundings : Surroundings) (column : Nat) (text : List Char) : Bool :=
  (!surroundings.inFlow && column < surroundings.leastColumn) ||
    (column == 0 && beginsDocumentMark text) || text.head? == some '#'

/-- A colon before a gap ends the scalar, and inside brackets a bracket or comma does. -/
def endsAt (surroundings : Surroundings) : List Char → Bool
  | [] => true
  | character :: rest =>
      (character == ':' && beginsGap rest) || (surroundings.inFlow && isFlowMark character)

/-- Inside brackets no colon stands directly before a bracket, comma or question mark. -/
def isClash (surroundings : Surroundings) : List Char → Bool
  | ':' :: next :: _ => surroundings.inFlow && (isFlowMark next || next == '?')
  | _ => false

/-- A tab does not indent a further line. -/
def isMisplacedTab (surroundings : Surroundings) (gap : List Char) (column : Nat)
    (character : Char) : Bool :=
  character == '\t' && isBroken gap && column < surroundings.leastColumn

def scan? (surroundings : Surroundings) : Nat → List Char → List Char → Option Scanned
  | _, gap, [] => some ⟨[], isBroken gap, []⟩
  | column, gap, character :: rest =>
      if isBreak character then scan? surroundings 0 (gap ++ [character]) rest
      else if isSpace character then
        if isMisplacedTab surroundings gap column character then none
        else scan? surroundings (column + 1) (gap ++ [character]) rest
      else if !gap.isEmpty && endsAfterGap surroundings column (character :: rest) then
        some ⟨[], isBroken gap, character :: rest⟩
      else if isClash surroundings (character :: rest) then none
      else if endsAt surroundings (character :: rest) then
        some ⟨[], isBroken gap, character :: rest⟩
      else
        (scan? surroundings (column + 1) [] rest).map fun scanned =>
          { scanned with text := foldGap gap ++ character :: scanned.text }

end SchemaInference.Yaml.Plain
