/-
This file defines replacements of characters by texts, such as changes of case.
-/

import SchemaInference.Unicode.Table

namespace SchemaInference.Unicode

/-- A run is replaced by a run that begins at its value. Of a run of the second table only every
second character, from the first on, is replaced. -/
structure Replacement where
  shifted : Table Nat
  alternating : Table Nat
  listed : Table (List (List Char))

namespace Replacement

def shift? (table : Table Nat) (step : Nat) (character : Char) : Option (List Char) :=
  (table.find? character.toNat).bind fun entry =>
    let distance := character.toNat - entry.1.first
    if distance % step = 0 then some [Char.ofNat (entry.2 + distance)] else none

/-- A character that stays has no replacement. -/
def get? (replacement : Replacement) (character : Char) : Option (List Char) :=
  ((shift? replacement.shifted 1 character).or (shift? replacement.alternating 2 character)).or
    (replacement.listed.getListed? character)

def apply (replacement : Replacement) (text : List Char) : List Char :=
  text.flatMap fun character => (replacement.get? character).getD [character]

end Replacement

end SchemaInference.Unicode
