/-
This file builds the nodes of YAML documents from their tokens.
-/

import SchemaInference.Yaml.Scan

namespace SchemaInference.Yaml

/-- A node may carry an anchor and a tag. -/
structure Properties where
  anchor : Option Nat
  tag : Option Tag

def Properties.none : Properties :=
  ⟨.none, .none⟩

inductive Node where
  | scalar (properties : Properties) (style : Style) (text : String)
  | list (properties : Properties) (items : List Node)
  | table (properties : Properties) (members : List (Node × Node))
  | reference (number : Nat)

namespace Node

/-- A node that is not written is a plain scalar without text. -/
def absent : Node :=
  scalar .none .plain ""

/-! Properties -/

/-- An anchor and a tag stand in either order. -/
def countProperties : List Token → Nat
  | .anchor _ :: .tag _ :: _ => 2
  | .tag _ :: .anchor _ :: _ => 2
  | .anchor _ :: _ => 1
  | .tag _ :: _ => 1
  | _ => 0

def addProperty? (handles : Handles) (properties : Properties) : Token → Option Properties
  | .anchor number => some { properties with anchor := some number }
  | .tag tag => (tag.resolve? handles).map fun resolved => { properties with tag := some resolved }
  | _ => some properties

/-! Missing nodes -/

def isItemMissing : List Token → Bool
  | .dash :: _ => true
  | .closeBlock :: _ => true
  | _ => false

/-- The list of a member may be followed by the next member. -/
def isMemberMissing : List Token → Bool
  | .key :: _ => true
  | .colon :: _ => true
  | .closeBlock :: _ => true
  | _ => false

def isFlowKeyMissing : List Token → Bool
  | .colon :: _ => true
  | .comma :: _ => true
  | .closeTable :: _ => true
  | _ => false

def isFlowValueMissing : List Token → Bool
  | .comma :: _ => true
  | .closeTable :: _ => true
  | _ => false

def isPairKeyMissing : List Token → Bool
  | .colon :: _ => true
  | .comma :: _ => true
  | .closeList :: _ => true
  | _ => false

def isPairValueMissing : List Token → Bool
  | .comma :: _ => true
  | .closeList :: _ => true
  | _ => false

/-- A comma stands before every part of a bracket but the first. -/
def nextPart? (isFirst : Bool) : List Token → Option (List Token)
  | .comma :: rest => if isFirst then some (.comma :: rest) else some rest
  | tokens => if isFirst then some tokens else none

/-! Nodes -/

/-- A block node may be a block collection. A node of a member may also be a list whose dashes stand
in the column of the key. -/
inductive Context where
  | flow
  | block
  | member
deriving DecidableEq

mutual

/-- Where only properties are written the node itself is absent. -/
def node? : Nat → Handles → Context → List Token → Option (Node × List Token)
  | 0, _, _, _ => none
  | fuel + 1, handles, context, tokens => do
      let count := countProperties tokens
      let properties ← (tokens.take count).foldlM (addProperty? handles) .none
      match context, tokens.drop count with
      | _, .scalar style text :: rest => some (scalar properties style text, rest)
      | _, .openList :: rest =>
          (flowItems? fuel handles true [] rest).map fun (items, after) =>
            (list properties items, after)
      | _, .openTable :: rest =>
          (flowMembers? fuel handles true [] rest).map fun (members, after) =>
            (table properties members, after)
      | .member, .dash :: rest =>
          (dashedItems? fuel handles [] (.dash :: rest)).map fun (items, after) =>
            (list properties items, after)
      | context, content =>
          match content, context == .flow, count with
          | .openBlockList :: rest, false, _ =>
              (blockItems? fuel handles [] rest).map fun (items, after) =>
                (list properties items, after)
          | .openBlockTable :: rest, false, _ =>
              (blockMembers? fuel handles [] rest).map fun (members, after) =>
                (table properties members, after)
          | .reference number :: rest, _, 0 => some (reference number, rest)
          | _, _, 0 => none
          | rest, _, _ => some (scalar properties .plain "", rest)

/-- A node is written or missing. -/
def nodeUnless? : Nat → Handles → Context → (List Token → Bool) → List Token →
    Option (Node × List Token)
  | 0, _, _, _, _ => none
  | fuel + 1, handles, context, isMissing, tokens =>
      if isMissing tokens then some (absent, tokens) else node? fuel handles context tokens

/-- A colon stands before a value that is written. -/
def value? : Nat → Handles → Context → (List Token → Bool) → List Token →
    Option (Node × List Token)
  | 0, _, _, _, _ => none
  | fuel + 1, handles, context, isMissing, .colon :: rest =>
      nodeUnless? fuel handles context isMissing rest
  | _, _, _, _, tokens => some (absent, tokens)

def flowItems? : Nat → Handles → Bool → List Node → List Token → Option (List Node × List Token)
  | 0, _, _, _, _ => none
  | _, _, _, done, .closeList :: rest => some (done.reverse, rest)
  | fuel + 1, handles, isFirst, done, tokens => do
      match ← nextPart? isFirst tokens with
      | .closeList :: rest => some (done.reverse, rest)
      | .key :: rest =>
          let (pair, after) ← pair? fuel handles rest
          flowItems? fuel handles false (pair :: done) after
      | part =>
          let (item, after) ← node? fuel handles .flow part
          flowItems? fuel handles false (item :: done) after

/-- A pair in a list is a table of its own. Where its key is missing the next token is lost. -/
def pair? : Nat → Handles → List Token → Option (Node × List Token)
  | 0, _, _ => none
  | fuel + 1, handles, tokens => do
      let (key, afterKey) ← if isPairKeyMissing tokens then some (absent, tokens.drop 1)
        else node? fuel handles .flow tokens
      let (value, after) ← value? fuel handles .flow isPairValueMissing afterKey
      some (table .none [(key, value)], after)

def flowMembers? : Nat → Handles → Bool → List (Node × Node) → List Token →
    Option (List (Node × Node) × List Token)
  | 0, _, _, _, _ => none
  | _, _, _, done, .closeTable :: rest => some (done.reverse, rest)
  | fuel + 1, handles, isFirst, done, tokens => do
      match ← nextPart? isFirst tokens with
      | .closeTable :: rest => some (done.reverse, rest)
      | .key :: rest =>
          let (key, afterKey) ← nodeUnless? fuel handles .flow isFlowKeyMissing rest
          let (value, after) ← value? fuel handles .flow isFlowValueMissing afterKey
          flowMembers? fuel handles false ((key, value) :: done) after
      | part =>
          let (key, after) ← node? fuel handles .flow part
          flowMembers? fuel handles false ((key, absent) :: done) after

def blockItems? : Nat → Handles → List Node → List Token → Option (List Node × List Token)
  | fuel + 1, handles, done, .dash :: rest => do
      let (item, after) ← nodeUnless? fuel handles .block isItemMissing rest
      blockItems? fuel handles (item :: done) after
  | _, _, done, .closeBlock :: rest => some (done.reverse, rest)
  | _, _, _, _ => none

/-- The dashes of a list in the column of its key are followed by the next member. -/
def dashedItems? : Nat → Handles → List Node → List Token → Option (List Node × List Token)
  | fuel + 1, handles, done, .dash :: rest => do
      let isMissing (tokens : List Token) : Bool := isItemMissing tokens || isMemberMissing tokens
      let (item, after) ← nodeUnless? fuel handles .block isMissing rest
      dashedItems? fuel handles (item :: done) after
  | 0, _, _, _ => none
  | _, _, done, tokens => some (done.reverse, tokens)

def blockMembers? : Nat → Handles → List (Node × Node) → List Token →
    Option (List (Node × Node) × List Token)
  | fuel + 1, handles, done, .key :: rest => do
      let (key, afterKey) ← nodeUnless? fuel handles .member isMemberMissing rest
      let (value, after) ← value? fuel handles .member isMemberMissing afterKey
      blockMembers? fuel handles ((key, value) :: done) after
  | _, _, done, .closeBlock :: rest => some (done.reverse, rest)
  | _, _, _, _ => none

end

/-- Every token leads to at most four calls inside one another. -/
def ofTokens? (handles : Handles) (tokens : List Token) : Option (Node × List Token) :=
  node? (4 * tokens.length + 4) handles .block tokens

end Node

end SchemaInference.Yaml
