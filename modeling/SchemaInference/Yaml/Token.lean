/-
This file defines the tokens of YAML texts.
-/

import SchemaInference.Yaml.Tag

namespace SchemaInference.Yaml

/-- The style of a scalar tells how it is written. -/
inductive Style where
  | plain
  | literal
  | folded
  | quoted
deriving DecidableEq

/-- Directives stand before a document. -/
inductive Directive where
  | version (major minor : Nat)
  | handle (name : List Char) (head : List UInt8)

/-- Block collections begin and end with the indentation. Anchors are numbered by the names before
them. -/
inductive Token where
  | directive (directive : Directive)
  | documentStart
  | documentEnd
  | openBlockList
  | openBlockTable
  | closeBlock
  | openList
  | closeList
  | openTable
  | closeTable
  | comma
  | dash
  | key
  | colon
  | anchor (number : Nat)
  | reference (number : Nat)
  | tag (tag : WrittenTag)
  | scalar (style : Style) (text : String)

end SchemaInference.Yaml
