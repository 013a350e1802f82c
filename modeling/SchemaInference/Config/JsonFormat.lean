/-
This file reads configurations from JSON trees.
-/

import SchemaInference.Config.Format
import SchemaInference.Json.Record

namespace SchemaInference.Json

namespace Tree

def numberSetting : Number → Setting
  | .natural value => .natural value.toNat
  | .negative predecessor => .integer (-(predecessor.val + 1))
  | .float _ => .real

mutual

/-- A tree has a setting when all its literals have values and its brackets nest at most the given
number of levels. -/
def setting? : Nat → Tree → Option Setting
  | _, null => some .null
  | _, boolean value => some (.truth value)
  | _, number value => value.map numberSetting
  | _, string text => text.map .text
  | 0, array _ => none
  | levels + 1, array items => (itemSettings? levels items).map .list
  | 0, object _ => none
  | levels + 1, object members => (memberSettings? levels members).map .table

def itemSettings? : Nat → List Tree → Option (List Setting)
  | _, [] => some []
  | levels, item :: rest => do
      let setting ← setting? levels item
      let settings ← itemSettings? levels rest
      some (setting :: settings)

def memberSettings? : Nat → List (Option String × Tree) → Option (List (Setting × Setting))
  | _, [] => some []
  | levels, (key, tree) :: rest => do
      let text ← key
      let setting ← setting? levels tree
      let settings ← memberSettings? levels rest
      some ((.text text, setting) :: settings)

end

def natural? : Tree → Option Nat
  | number (some (.natural value)) => some value.toNat
  | _ => none

def truth? : Tree → Option Bool
  | boolean value => some value
  | _ => none

/-- The levels of brackets inside a source, which stands inside the brackets of a configuration. -/
def sourceLevels : Nat :=
  nestingLimit - 2

/-- The type comes first in an array. In an object it is one of the members. -/
def splitSource? : Tree → Option (String × Setting)
  | array (type :: rest) => do
      some (← type.text?, .list (← itemSettings? sourceLevels rest))
  | object members =>
      match members.partition fun member => member.1 == some "type" with
      | ([(_, type)], others) => do
          some (← type.text?, .table (← memberSettings? sourceLevels others))
      | _ => none
  | _ => none

end Tree

def format : Format Tree where
  record names tree := .ofOption (tree.record? names)
  text tree := .ofOption tree.text?
  natural tree := .ofOption tree.natural?
  truth tree := .ofOption tree.truth?
  choice tree := .ofOption (tree.choice? Tree.sourceLevels)
  source tree := .ofOption tree.splitSource?

end SchemaInference.Json
