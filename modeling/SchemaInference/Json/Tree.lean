/-
This file builds the tree of a JSON text from its tokens. A tree keeps every member in written
order, also one whose key repeats.
-/

import SchemaInference.Json.Token
import SchemaInference.Json.Value

namespace SchemaInference.Json

inductive Tree where
  | null
  | boolean (value : Bool)
  | number (value : Option Number)
  | string (text : Option String)
  | array (items : List Tree)
  | object (members : List (Option String × Tree))

namespace Tree

/-- An open bracket keeps what it holds so far, the last first. -/
inductive Frame where
  | array (done : List Tree)
  | object (done : List (Option String × Tree)) (key : Option String)

/-- The state says what the next token may be, inside the open brackets. -/
inductive State where
  | value (opened : List Frame)
  | firstItem (opened : List Frame)
  | firstKey (opened : List Frame)
  | nextKey (done : List (Option String × Tree)) (opened : List Frame)
  | colon (done : List (Option String × Tree)) (key : Option String) (opened : List Frame)
  | complete (tree : Tree) (opened : List Frame)

def beginValue (opened : List Frame) : Token → Option State
  | .openArray => some (.firstItem opened)
  | .openObject => some (.firstKey opened)
  | .null => some (.complete null opened)
  | .boolean value => some (.complete (boolean value) opened)
  | .number value => some (.complete (number value) opened)
  | .string text => some (.complete (string text) opened)
  | _ => none

def step : State → Token → Option State
  | .value opened, token => beginValue opened token
  | .firstItem opened, .closeArray => some (.complete (array []) opened)
  | .firstItem opened, token => beginValue (.array [] :: opened) token
  | .firstKey opened, .closeObject => some (.complete (object []) opened)
  | .firstKey opened, .string key => some (.colon [] key opened)
  | .nextKey done opened, .string key => some (.colon done key opened)
  | .colon done key opened, .colon => some (.value (.object done key :: opened))
  | .complete tree (.array done :: opened), .comma =>
      some (.value (.array (tree :: done) :: opened))
  | .complete tree (.array done :: opened), .closeArray =>
      some (.complete (array (tree :: done).reverse) opened)
  | .complete tree (.object done key :: opened), .comma =>
      some (.nextKey ((key, tree) :: done) opened)
  | .complete tree (.object done key :: opened), .closeObject =>
      some (.complete (object ((key, tree) :: done).reverse) opened)
  | _, _ => none

/-- The tokens form one tree with nothing after it. -/
def ofTokens? (tokens : List Token) : Option Tree :=
  match tokens.foldlM step (.value []) with
  | some (.complete tree []) => some tree
  | _ => none

def read? (text : List Char) : Option Tree :=
  (Token.split? text).bind ofTokens?

/-- The brackets of a text nest at most this deep. -/
def nestingLimit : Nat :=
  127

mutual

/-- A tree has a value when all its literals do and its brackets nest at most the given number of
levels. Of the members with one key the last counts. -/
def value? : Nat → Tree → Option Json
  | _, null => some .null
  | _, boolean value => some (.boolean value)
  | _, number value => value.map .number
  | _, string text => text.map .string
  | 0, array _ => none
  | levels + 1, array items => (itemValues? levels items).map .array
  | 0, object _ => none
  | levels + 1, object members =>
      (memberValues? levels members).map fun values => .object (Entries.ofList values)

def itemValues? : Nat → List Tree → Option (List Json)
  | _, [] => some []
  | levels, item :: rest => do
      let value ← value? levels item
      let values ← itemValues? levels rest
      some (value :: values)

def memberValues? : Nat → List (Option String × Tree) → Option (List (String × Json))
  | _, [] => some []
  | levels, (key, tree) :: rest => do
      let text ← key
      let value ← value? levels tree
      let values ← memberValues? levels rest
      some ((text, value) :: values)

end

end Tree

/-- This function reads a text as one JSON value. -/
def read? (text : List Char) : Option Json :=
  (Tree.read? text).bind (Tree.value? Tree.nestingLimit)

end SchemaInference.Json
