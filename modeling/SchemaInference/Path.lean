/-
This file defines paths into a document and their dotted notation.
-/

import SchemaInference.Failure
import SchemaInference.Text.Blank
import SchemaInference.Text.Cut
import SchemaInference.Text.Numeral

namespace SchemaInference

/-- A segment names a member of an object or counts an item of an array. -/
inductive Segment where
  | field (name : String)
  | index (position : UInt64)
deriving DecidableEq

namespace Segment

def text : Segment → List Char
  | field name => name.toList
  | index position => Text.digits position.toNat

/-- The text of a segment can also name a member. -/
def name (segment : Segment) : String :=
  String.ofList segment.text

/-- This function gives the name of a field segment. -/
def fieldName? : Segment → Option String
  | field name => some name
  | index _ => none

@[simp] theorem name_field (name : String) : (field name).name = name :=
  String.ofList_toList

/-- A small index prints as its digit. -/
theorem name_index_of_lt {position : UInt64} (small : position.toNat < 10) :
    (index position).name = String.ofList [Text.digitChar position.toNat] := by
  rw [name, text, Text.digits_of_lt small]

/-- A part that reads as a word is an index, and any other part is a name. -/
def ofPart (part : List Char) : Segment :=
  match Text.word? part with
  | some position => index position
  | none => field (String.ofList part)

end Segment

/-- A path leads from the root of a document to one of its values. -/
abbrev Path := List Segment

namespace Path

def separator : Char := '.'

def text (path : Path) : List Char :=
  [separator].intercalate (path.map Segment.text)

def name (path : Path) : String :=
  String.ofList path.text

def parts (text : List Char) : List (List Char) :=
  Text.cutAt separator text

/-- Blanks around a dotted text do not count. The empty text is the root and no part is empty. -/
def read (text : String) : Outcome Path :=
  let trimmed := Text.trim text.toList
  if trimmed.isEmpty then .ok []
  else if (parts trimmed).any List.isEmpty then
    .error (.other ("Empty segment in path '" ++ String.ofList trimmed ++ "'"))
  else .ok ((parts trimmed).map Segment.ofPart)

theorem intercalate_parts (text : List Char) : [separator].intercalate (parts text) = text :=
  Text.intercalate_cutAt separator text

end Path

end SchemaInference
