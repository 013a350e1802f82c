/-
This file splits YAML texts into tokens. The indentation opens and closes block collections, and a
colon makes a key of what stands before it on its line.
-/

import SchemaInference.Yaml.Directive
import SchemaInference.Yaml.Plain
import SchemaInference.Yaml.Position
import SchemaInference.Yaml.Quoted

namespace SchemaInference.Yaml

/-- A token after which a colon may come. Its place counts the tokens before it. Where a key is
required the colon must come. -/
structure OpenKey where
  required : Bool
  place : Nat
  start : Position

/-- A scan knows one open key, or none, for each open bracket and for the text outside brackets, the
innermost first. The columns of the open block collections fall from the innermost on. -/
structure Scan where
  position : Position
  rest : List Char
  tokens : Array Token
  keys : List (Option OpenKey)
  columns : List Nat
  keyAllowed : Bool
  anchors : List (String × Nat)

namespace Scan

def start (text : List Char) : Scan :=
  ⟨.start, text, #[], [none], [], true, []⟩

def inFlow (scan : Scan) : Bool :=
  scan.keys.length > 1

/-- This function moves to a later rest of the text. -/
def moveTo (scan : Scan) (rest : List Char) : Scan :=
  let passed := scan.rest.take (scan.rest.length - rest.length)
  { scan with position := scan.position.afterAll passed, rest := rest }

def emit (scan : Scan) (token : Token) : Scan :=
  { scan with tokens := scan.tokens.push token }

/-! Keys -/

/-- The bytes between the start of a key and its colon. -/
def keyLimit : Nat :=
  1024

/-- An open key that is too far away, or on another line, is no key. -/
def refreshKey? (position : Position) : Option OpenKey → Option (Option OpenKey)
  | none => some none
  | some key =>
      if key.start.line < position.line || key.start.offset + keyLimit < position.offset then
        if key.required then none else some none
      else some (some key)

/-- The innermost open key gets no colon. -/
def dropKey? (scan : Scan) : Option Scan :=
  match scan.keys with
  | some key :: others => if key.required then none else some { scan with keys := none :: others }
  | _ => some scan

/-- Where a line of a block collection begins a key is required. -/
def openKey? (scan : Scan) : Option Scan := do
  if scan.keyAllowed then
    let required := !scan.inFlow && scan.columns.head? == some scan.position.column
    let key : OpenKey := ⟨required, scan.tokens.size, scan.position⟩
    let free ← scan.dropKey?
    some { free with keys := some key :: free.keys.drop 1 }
  else some scan

/-! Indentation -/

/-- A deeper column opens a block collection at the given place. -/
def indent (scan : Scan) (column place : Nat) (token : Token) : Scan :=
  if scan.inFlow || scan.columns.head?.any (column ≤ ·) then scan
  else { scan with
    columns := column :: scan.columns, tokens := scan.tokens.insertIdxIfInBounds place token }

/-- The block collections that are deeper than a column are closed, or all of them. -/
def outdent (scan : Scan) (column : Option Nat) : Scan :=
  if scan.inFlow then scan
  else
    let closed := scan.columns.takeWhile fun deeper => column.all (· < deeper)
    { scan with
      columns := scan.columns.drop closed.length
      tokens := scan.tokens ++ closed.toArray.map fun _ => Token.closeBlock }

/-! Gaps -/

/-- Tabs do not stand where a key may begin. A byte order mark may begin a line and takes a
column. -/
def isSkipped (inFlow keyAllowed : Bool) (position : Position) (character : Char) : Bool :=
  character == ' ' || (character == '\t' && (inFlow || !keyAllowed)) ||
    (isOrderMark character && position.column == 0)

/-- Spaces, comments and line breaks are skipped. Outside brackets a key may begin after a break. -/
def skip (inFlow : Bool) (position : Position) (keyAllowed inComment : Bool) :
    List Char → Position × Bool × List Char
  | [] => (position, keyAllowed, [])
  | character :: rest =>
      let next := position.after character
      if isBreak character then skip inFlow next (keyAllowed || !inFlow) false rest
      else if inComment then skip inFlow next keyAllowed true rest
      else if isSkipped inFlow keyAllowed position character then
        skip inFlow next keyAllowed false rest
      else if character == '#' then skip inFlow next keyAllowed true rest
      else (position, keyAllowed, character :: rest)

/-- The scan moves to the next token. -/
def prepare? (scan : Scan) : Option Scan := do
  let (position, keyAllowed, rest) :=
    skip scan.inFlow scan.position scan.keyAllowed false scan.rest
  let keys ← scan.keys.mapM (refreshKey? position)
  let moved := { scan with position, keyAllowed, rest, keys }
  some (moved.outdent (some position.column))

/-! Marks -/

/-- All block collections end where a document does. -/
def leave? (scan : Scan) : Option Scan := do
  let free ← (scan.outdent none).dropKey?
  some { free with keyAllowed := false }

def readDirective? (scan : Scan) (after : List Char) : Option Scan := do
  let free ← scan.leave?
  let (directive, rest) ← Directive.read? after
  some ((free.emit (.directive directive)).moveTo rest)

def readDocumentMark? (scan : Scan) (token : Token) : Option Scan := do
  let free ← scan.leave?
  some ((free.emit token).moveTo (scan.rest.drop 3))

/-- A bracket may begin a key, and so may what follows it. -/
def openBracket? (scan : Scan) (token : Token) (after : List Char) : Option Scan := do
  let opened ← scan.openKey?
  some ({ opened with keys := none :: opened.keys, keyAllowed := true }.emit token |>.moveTo after)

def closeBracket? (scan : Scan) (token : Token) (after : List Char) : Option Scan := do
  let free ← scan.dropKey?
  let keys := if free.inFlow then free.keys.drop 1 else free.keys
  some ({ free with keys, keyAllowed := false }.emit token |>.moveTo after)

def readComma? (scan : Scan) (after : List Char) : Option Scan := do
  let free ← scan.dropKey?
  some ({ free with keyAllowed := true }.emit .comma |>.moveTo after)

/-- A mark of a block collection stands where a key may begin. -/
def beginEntry? (scan : Scan) (token : Token) : Option Scan :=
  if scan.inFlow then some scan
  else if scan.keyAllowed then some (scan.indent scan.position.column scan.tokens.size token)
  else none

def readDash? (scan : Scan) (after : List Char) : Option Scan := do
  let free ← (← scan.beginEntry? .openBlockList).dropKey?
  some ({ free with keyAllowed := true }.emit .dash |>.moveTo after)

def readKeyMark? (scan : Scan) (after : List Char) : Option Scan := do
  let free ← (← scan.beginEntry? .openBlockTable).dropKey?
  some ({ free with keyAllowed := !free.inFlow }.emit .key |>.moveTo after)

/-- The key before a colon gets its mark and may begin a table. -/
def closeKey (scan : Scan) (key : OpenKey) : Scan :=
  let marked := { scan with
    tokens := scan.tokens.insertIdxIfInBounds key.place .key
    keys := none :: scan.keys.drop 1
    keyAllowed := false }
  marked.indent key.start.column key.place .openBlockTable

def readColon? (scan : Scan) (after : List Char) : Option Scan := do
  let ready ← match scan.keys with
    | some key :: _ => some (scan.closeKey key)
    | _ => (scan.beginEntry? .openBlockTable).map fun free =>
        { free with keyAllowed := !free.inFlow }
  some (ready.emit .colon |>.moveTo after)

/-! Nodes -/

/-- A gap, or a mark that begins no word, follows the name of an anchor. -/
def endsName : List Char → Bool
  | [] => true
  | character :: _ =>
      isGap character || ['?', ':', ',', ']', '\x7d', '%', '@', '\x60'].contains character

def readName? (text : List Char) : Option (String × List Char) :=
  let name := text.takeWhile isWordPart
  let rest := text.dropWhile isWordPart
  if name.isEmpty || !endsName rest then none else some (String.ofList name, rest)

/-- A token that begins a node may begin a key. -/
def beginNode? (scan : Scan) : Option Scan := do
  let opened ← scan.openKey?
  some { opened with keyAllowed := false }

/-- An anchor is numbered by the different names before it, its own included if it was used. -/
def readAnchor? (scan : Scan) (after : List Char) : Option Scan := do
  let begun ← scan.beginNode?
  let (name, rest) ← readName? after
  let number := begun.anchors.length
  let anchors := (name, number) :: begun.anchors.filter (·.1 != name)
  some ({ begun with anchors }.emit (.anchor number) |>.moveTo rest)

/-- An alias stands for the last anchor of its name. -/
def readAlias? (scan : Scan) (after : List Char) : Option Scan := do
  let begun ← scan.beginNode?
  let (name, rest) ← readName? after
  some (begun.emit (.reference (← begun.anchors.lookup name)) |>.moveTo rest)

def readTag? (scan : Scan) (after : List Char) : Option Scan := do
  let begun ← scan.beginNode?
  let (tag, rest) ← WrittenTag.read? begun.inFlow after
  some (begun.emit (.tag tag) |>.moveTo rest)

def readQuoted? (scan : Scan) (scanned? : Option (List Char × List Char)) : Option Scan := do
  let begun ← scan.beginNode?
  let (text, rest) ← scanned?
  some (begun.emit (.scalar .quoted (String.ofList text)) |>.moveTo rest)

/-- A block scalar is never a key. -/
def readBlock? (scan : Scan) (style : Style) (after : List Char) : Option Scan := do
  let free ← scan.dropKey?
  let (text, rest) ← Block.scan? (style = .folded) scan.columns.head? after
  some ({ free with keyAllowed := true }.emit (.scalar style (String.ofList text)) |>.moveTo rest)

/-- The further lines of a plain scalar are deeper than the block collection around it. -/
def surroundings (scan : Scan) : Plain.Surroundings :=
  ⟨scan.inFlow, match scan.columns with
    | column :: _ => column + 1
    | [] => 0⟩

def readPlain? (scan : Scan) : Option Scan := do
  let begun ← scan.beginNode?
  let scanned ← Plain.scan? scan.surroundings scan.position.column [] scan.rest
  let text := String.ofList scanned.text
  some ({ begun with keyAllowed := scanned.broken }.emit (.scalar .plain text) |>.moveTo
    scanned.rest)

/-- These characters begin no plain scalar by themselves. -/
def isIndicator (character : Char) : Bool :=
  isFlowMark character || ['-', '?', ':', '#', '&', '*', '!', '|', '>', '\'', '"', '%', '@',
    '\x60'].contains character

def beginsPlain (inFlow : Bool) (first : Char) (after : List Char) : Bool :=
  (!isGap first && !isIndicator first) || (first == '-' && !after.head?.any isSpace) ||
    (!inFlow && (first == '?' || first == ':') && !beginsGap after)

/-! Tokens -/

/-- These characters are marks only before a gap or, some of them, inside brackets. -/
def readOther? (scan : Scan) (first : Char) (after : List Char) : Option Scan :=
  let ends := scan.inFlow || beginsGap after
  if first == '-' && beginsGap after then scan.readDash? after
  else if first == '?' && ends then scan.readKeyMark? after
  else if first == ':' && ends then scan.readColon? after
  else if first == '|' && !scan.inFlow then scan.readBlock? .literal after
  else if first == '>' && !scan.inFlow then scan.readBlock? .folded after
  else if beginsPlain scan.inFlow first after then scan.readPlain?
  else none

def readToken? (scan : Scan) (first : Char) (after : List Char) : Option Scan :=
  if scan.position.column = 0 && first == '%' then scan.readDirective? after
  else if scan.position.column = 0 && beginsDocumentMark scan.rest then
    scan.readDocumentMark? (if first == '-' then .documentStart else .documentEnd)
  else
    match first with
    | '[' => scan.openBracket? .openList after
    | '\x7b' => scan.openBracket? .openTable after
    | ']' => scan.closeBracket? .closeList after
    | '\x7d' => scan.closeBracket? .closeTable after
    | ',' => scan.readComma? after
    | '*' => scan.readAlias? after
    | '&' => scan.readAnchor? after
    | '!' => scan.readTag? after
    | '\'' => scan.readQuoted? (Quoted.scanSingle? [] after)
    | '"' => scan.readQuoted? (Quoted.scanDouble? [] after)
    | _ => scan.readOther? first after

/-- Every token takes a character. -/
def run? (scan : Scan) : Option (Array Token) :=
  match scan.prepare? with
  | none => none
  | some ready =>
      match ready.rest with
      | [] => ready.leave?.map Scan.tokens
      | first :: after =>
          match ready.readToken? first after with
          | none => none
          | some next => if next.rest.length < scan.rest.length then run? next else none
termination_by scan.rest.length

end Scan

def tokens? (text : List Char) : Option (List Token) :=
  if text.all isAllowed then (Scan.run? (.start (unifyBreaks text))).map Array.toList else none

end SchemaInference.Yaml
