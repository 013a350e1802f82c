/-
This file reads configurations from YAML documents.
-/

import SchemaInference.Config.Format
import SchemaInference.Yaml.Core
import SchemaInference.Yaml.Document

namespace SchemaInference.Yaml

/-! Scalars -/

/-- A plain scalar is a text when it is nothing else. -/
def plainSetting? (text : String) : Option Setting :=
  if Core.isNull text then some .null
  else
    match Core.truth? text, Core.natural? text, Core.integer? text with
    | some value, _, _ => some (.truth value)
    | none, some value, _ => some (.natural value)
    | none, none, some value => some (.integer value)
    | none, none, none =>
        if Core.isWide text then none
        else if !Core.isPadded (Core.withoutSign text.toList) && Core.isReal text then some .real
        else some (.text text)

/-- An integer is a natural where it can be one. -/
def integerSetting? (text : String) : Option Setting :=
  match Core.natural? text with
  | some value => some (.natural value)
  | none => (Core.integer? text).map .integer

/-- A tag of the core schema demands a value of its kind, and every other tag a text. -/
def taggedSetting? (tag : Tag) (text : String) : Option Setting :=
  if tag = .core "bool" then (Core.truth? text).map .truth
  else if tag = .core "int" then integerSetting? text
  else if tag = .core "float" then if Core.isReal text then some .real else none
  else if tag = .core "null" then
    if Core.isNull text && !text.isEmpty then some .null else none
  else some (.text text)

def scalarSetting? (properties : Properties) (style : Style) (text : String) : Option Setting :=
  match properties.tag with
  | some tag =>
      if tag.localName?.isSome then none
      else if tag.isLocal && style = .plain then plainSetting? text
      else taggedSetting? tag text
  | none => if style = .plain then plainSetting? text else some (.text text)

/-! Parts -/

namespace Document

/-- Each alias that is followed counts. -/
def follow (document : Document) : Node → Reading Node
  | .reference number => do
      match ← get with
      | 0 => failure
      | left + 1 =>
          set left
          .ofOption (document.places.lookup number)
  | node => pure node

/-- A written value can be read whatever its kind if it is a plain scalar. A literal block needs the
tag of the kind. -/
def isBare (kind : String) (properties : Properties) (style : Style) : Bool :=
  style = .plain || (style = .literal && properties.tag = some (.core kind))

def bare (document : Document) (kind : String) (node : Node) : Reading String := do
  match ← document.follow node with
  | .scalar properties style text =>
      if isBare kind properties style then pure text else failure
  | _ => failure

def natural (document : Document) (node : Node) : Reading Nat := do
  .ofOption (Core.natural? (← document.bare "int" node))

def truth (document : Document) (node : Node) : Reading Bool := do
  .ofOption (Core.truth? (← document.bare "bool" node))

/-- Every scalar is a text where a text is due. -/
def text (document : Document) (node : Node) : Reading String := do
  match ← document.follow node with
  | .scalar _ _ text => pure text
  | _ => failure

/-- A choice is a text, or a local tag before a null. -/
def choice (document : Document) (node : Node) : Reading String := do
  match ← document.follow node with
  | .scalar properties style text =>
      match properties.tag.bind Tag.localName? with
      | some name => if style = .plain && Core.isNull text then pure name else failure
      | none => pure text
  | _ => failure

/-- A record is a table, and a plain scalar without text is an empty one. -/
def record (document : Document) (names : List String) (node : Node) :
    Reading (List (Option Node)) := do
  match ← document.follow node with
  | .table _ members => do
      let named ← members.mapM fun member => do
        pure (some (← document.text member.1), member.2)
      .ofOption (Record.byName? names named)
  | .scalar _ style text =>
      if style = .plain && text.isEmpty then .ofOption (Record.byName? names []) else failure
  | _ => failure

/-! Settings -/

/-- A local tag cannot be given to a setting. -/
def hasLocalName (properties : Properties) : Bool :=
  (properties.tag.bind Tag.localName?).isSome

/-- The items of collections are read by the given function, if collections may nest so deep. -/
def settingWith (document : Document) (inner : Option (Node → Reading Setting)) (node : Node) :
    Reading Setting := do
  match ← document.follow node, inner with
  | .scalar properties style text, _ => .ofOption (scalarSetting? properties style text)
  | .list properties items, some read =>
      if hasLocalName properties then failure else .list <$> items.mapM read
  | .table properties members, some read =>
      if hasLocalName properties then failure
      else .table <$> members.mapM fun member => do pure (← read member.1, ← read member.2)
  | _, _ => failure

def setting (document : Document) : Nat → Node → Reading Setting
  | 0 => document.settingWith none
  | levels + 1 => document.settingWith (some (document.setting levels))

/-- The levels of collections inside a source, which stands inside a configuration. -/
def sourceLevels : Nat :=
  126

/-- A member of a source tells its type or is a setting with its key. -/
def sourceMember (document : Document) (read : Node → Reading Setting) (member : Node × Node) :
    Reading (String ⊕ (Setting × Setting)) := do
  match ← read member.1 with
  | .text "type" => .inl <$> document.text member.2
  | key => do pure (.inr (key, ← read member.2))

/-- Exactly one of the members tells the type. -/
def joinMembers? (members : List (String ⊕ (Setting × Setting))) : Option (String × Setting) :=
  match members.filterMap Sum.getLeft? with
  | [type] => some (type, .table (members.filterMap Sum.getRight?))
  | _ => none

/-- The type comes first in a list. In a table it is one of the members. -/
def source (document : Document) (node : Node) : Reading (String × Setting) := do
  let read := document.setting sourceLevels
  match ← document.follow node with
  | .list properties (type :: rest) =>
      if hasLocalName properties then failure
      else do pure (← document.text type, .list (← rest.mapM read))
  | .table properties members =>
      if hasLocalName properties then failure
      else do .ofOption (joinMembers? (← members.mapM (document.sourceMember read)))
  | _ => failure

def format (document : Document) : Format Node :=
  ⟨document.record, document.text, document.natural, document.truth, document.choice,
    document.source⟩

end Document

end SchemaInference.Yaml
