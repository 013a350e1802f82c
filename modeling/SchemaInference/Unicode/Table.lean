/-
This file defines tables of character properties. A table is written as words between blanks, each
with a run of hexadecimal code points and, after a colon, the value of the run.
-/

import SchemaInference.Text.Blank
import SchemaInference.Text.Cut
import SchemaInference.Text.Numeral

namespace SchemaInference.Unicode

open Text

/-- A run holds the code points from the first to the last. -/
structure Run where
  first : Nat
  last : Nat
deriving DecidableEq

/-- The runs of a table stand in ascending order and do not overlap. -/
structure Table (α : Type) where
  entries : Array (Run × α)

/-! Written tables -/

def words (text : String) : List (List Char) :=
  let spaced := text.toList.map fun character => if isBlank character then ' ' else character
  (cutAt ' ' spaced).filter fun word => !word.isEmpty

def readCode (written : List Char) : Nat :=
  (hexNumeral? written).getD 0

def readRun (written : List Char) : Run :=
  match cutAt '-' written with
  | [first, last] => ⟨readCode first, readCode last⟩
  | _ => ⟨readCode written, readCode written⟩

/-- The codes of one character are joined by dots. -/
def readCharacters (written : List Char) : List Char :=
  (cutAt '.' written).map fun code => Char.ofNat (readCode code)

namespace Table

variable {α : Type}

def readEntry (readValue : List Char → α) (word : List Char) : Run × α :=
  match cutAt ':' word with
  | [run, value] => (readRun run, readValue value)
  | _ => (readRun word, readValue [])

def read (readValue : List Char → α) (text : String) : Table α where
  entries := ((words text).map (readEntry readValue)).toArray

/-- A list gives one value to each code point from the first on. Commas separate the values. -/
def readListEntry (word : List Char) : Run × List (List Char) :=
  let (run, values) := readEntry (fun value => (cutAt ',' value).map readCharacters) word
  (⟨run.first, run.first + values.length - 1⟩, values)

def readLists (text : String) : Table (List (List Char)) where
  entries := ((words text).map readListEntry).toArray

/-! Searches -/

/-- The search halves the part of the table that can hold the code point. -/
def searchBetween (table : Table α) (code low high : Nat) : Option (Run × α) :=
  if low < high then
    match table.entries[(low + high) / 2]? with
    | none => none
    | some (run, value) =>
        if code < run.first then searchBetween table code low ((low + high) / 2)
        else if run.last < code then searchBetween table code ((low + high) / 2 + 1) high
        else some (run, value)
  else none
termination_by high - low

def find? (table : Table α) (code : Nat) : Option (Run × α) :=
  table.searchBetween code 0 table.entries.size

def get? (table : Table α) (character : Char) : Option α :=
  (table.find? character.toNat).map Prod.snd

/-- A list is read at the place of the code point in its run. -/
def getListed? (table : Table (List (List Char))) (character : Char) : Option (List Char) :=
  (table.find? character.toNat).bind fun entry => entry.2[character.toNat - entry.1.first]?

end Table

/-- A set is a table without values. -/
abbrev CodeSet := Table Unit

namespace CodeSet

def read (text : String) : CodeSet :=
  Table.read (fun _ => ()) text

def contains (set : CodeSet) (character : Char) : Bool :=
  (set.get? character).isSome

end CodeSet

end SchemaInference.Unicode
