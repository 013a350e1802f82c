/-
This file decodes the labels of domain names and checks them.
-/

import SchemaInference.Domain.Disallowed
import SchemaInference.Domain.Joiner
import SchemaInference.Domain.Mapping
import SchemaInference.Domain.Punycode
import SchemaInference.Unicode.Mark
import SchemaInference.Unicode.Normal

namespace SchemaInference.Domain

open Unicode

abbrev Label := List Char

namespace Label

/-- These characters begin a label that is written in Punycode. -/
def codedHead : Label :=
  ['x', 'n', '-', '-']

def codedLimit : Nat :=
  2000

/-- The number of characters in a label that is not written in ASCII. -/
def lengthLimit : Nat :=
  1000

/-- A decoded label reads as it would if it had not been coded. -/
def isStable (label : Label) : Bool :=
  label.all isKept && normalize label = label && !codedHead.isPrefixOf label

/-- The code of a label is not ASCII alone, so no hyphen ends it. -/
def decode? (label : Label) : Option Label :=
  if codedHead.isPrefixOf label then
    let code := label.drop 4
    if code.isEmpty || code.getLast? == some '-' || codedLimit < code.length then none
    else (Punycode.decode? code).filter isStable
  else some label

def isValid (label : Label) : Bool :=
  label.all (fun character => !isDisallowed character) && !label.head?.any isMark &&
    arePlaced [] label && (label.all Punycode.isAscii || label.length ≤ lengthLimit)

end Label

end SchemaInference.Domain
