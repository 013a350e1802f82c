/-
This file reads texts that hold one YAML document and finds the nodes that its aliases stand for.
-/

import SchemaInference.Yaml.Node

namespace SchemaInference.Yaml

/-! Directives -/

/-- What the directives before a document say. -/
structure Preamble where
  hasVersion : Bool
  handles : Handles

/-- No version and no handle is given twice. -/
def Preamble.add? (preamble : Preamble) : Directive → Option Preamble
  | .version major minor =>
      if preamble.hasVersion || major != 1 || (minor != 1 && minor != 2) then none
      else some { preamble with hasVersion := true }
  | .handle name head =>
      if (preamble.handles.lookup name).isSome then none
      else some { preamble with handles := (name, head) :: preamble.handles }

/-- After directives a document begins with its mark. -/
def splitPreamble? (preamble : Preamble) : List Token → Option (Preamble × List Token)
  | .directive directive :: rest => do
      match rest with
      | .directive _ :: _ => splitPreamble? (← preamble.add? directive) rest
      | .documentStart :: _ => some (← preamble.add? directive, rest)
      | _ => none
  | tokens => some (preamble, tokens)

/-! Contents -/

def endsContent : List Token → Bool
  | [] => true
  | .documentEnd :: _ => true
  | _ => false

def dropEndMarks : List Token → List Token
  | .documentEnd :: rest => dropEndMarks rest
  | tokens => tokens

/-- A document may be empty behind its mark, but an end mark does not begin one. -/
def readContent? (handles : Handles) : List Token → Option (Node × List Token)
  | .documentStart :: rest =>
      if endsContent rest then some (.absent, rest) else Node.ofTokens? handles rest
  | [] => some (.absent, [])
  | tokens => Node.ofTokens? handles tokens

/-- There is only one document, and it may have several end marks. -/
def Node.ofDocument? (tokens : List Token) : Option Node := do
  let (preamble, content) ← splitPreamble? ⟨false, []⟩ tokens
  let (node, rest) ← readContent? preamble.handles content
  if (dropEndMarks rest).isEmpty then some node else none

/-! Aliases -/

namespace Node

def mark (properties : Properties) (node : Node) : List (Nat × Node) :=
  match properties.anchor with
  | some number => [(number, node)]
  | none => []

mutual

/-- The nodes with anchors, in the order in which they begin. -/
def anchored : Node → List (Nat × Node)
  | reference _ => []
  | scalar properties style text => mark properties (scalar properties style text)
  | list properties items => mark properties (list properties items) ++ anchoredItems items
  | table properties members => mark properties (table properties members) ++ anchoredParts members

def anchoredItems : List Node → List (Nat × Node)
  | [] => []
  | item :: rest => anchored item ++ anchoredItems rest

def anchoredParts : List (Node × Node) → List (Nat × Node)
  | [] => []
  | (key, value) :: rest => anchored key ++ anchored value ++ anchoredParts rest

end

mutual

/-- A collection has a beginning and an end. -/
def events : Node → Nat
  | reference _ => 1
  | scalar _ _ _ => 1
  | list _ items => 2 + itemEvents items
  | table _ members => 2 + partEvents members

def itemEvents : List Node → Nat
  | [] => 0
  | item :: rest => events item + itemEvents rest

def partEvents : List (Node × Node) → Nat
  | [] => 0
  | (key, value) :: rest => events key + events value + partEvents rest

end

end Node

/-- An alias stands for the last node with its number. -/
structure Document where
  root : Node
  places : List (Nat × Node)

namespace Document

def ofNode (root : Node) : Document :=
  ⟨root, root.anchored.reverse⟩

def read? (text : List Char) : Option Document :=
  ((tokens? text).bind Node.ofDocument?).map ofNode

/-- The number of aliases that may be followed, so that no small text stands for a huge value. -/
def jumpLimit (document : Document) : Nat :=
  100 * document.root.events

end Document

end SchemaInference.Yaml
