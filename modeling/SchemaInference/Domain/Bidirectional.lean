/-
This file checks that a label with characters of both directions can be read in one way only.
-/

import SchemaInference.Unicode.Direction

namespace SchemaInference.Domain

open Unicode

/-- One such character makes the rule apply to all labels of a name. -/
def isRightward (character : Char) : Bool :=
  direction character = .right || direction character = .arabicNumber

/-- A label that begins from the left is free of characters from the right and ends with a letter or
number. -/
def runsRight (directions : List Direction) : Bool :=
  directions.all ([.left, .europeanNumber, .neutral, .nonspacing].contains ·) &&
    directions.getLast?.all ([.left, .europeanNumber].contains ·)

/-- A label that begins from the right has no characters from the left and numbers of one kind. -/
def runsLeft (directions : List Direction) : Bool :=
  directions.all (· != .left) &&
    directions.getLast?.all ([.right, .arabicNumber, .europeanNumber].contains ·) &&
    !(directions.contains .arabicNumber && directions.contains .europeanNumber)

/-- The first character decides where a label begins. Marks at its end do not count. -/
def isDirected (label : List Char) : Bool :=
  match label.map direction with
  | [] => true
  | first :: others =>
      let body := (others.reverse.dropWhile (· = .nonspacing)).reverse
      match first with
      | .left => runsRight body
      | .right => runsLeft body
      | _ => false

end SchemaInference.Domain
