/-
This file sorts the characters of YAML texts.
-/

namespace SchemaInference.Yaml

def isSpace (character : Char) : Bool :=
  character == ' ' || character == '\t'

/-- Two separators of Unicode break lines too. -/
def isBreak (character : Char) : Bool :=
  character == '\n' || character == '\u2028' || character == '\u2029'

def isGap (character : Char) : Bool :=
  isSpace character || isBreak character

/-- A gap or the end of the text follows an indicator. -/
def beginsGap : List Char → Bool
  | [] => true
  | character :: _ => isGap character

/-- Names of anchors, tags and directives consist of these characters. -/
def isWordPart (character : Char) : Bool :=
  character.isAlphanum || character == '_' || character == '-'

def isFlowMark (character : Char) : Bool :=
  [',', '[', ']', '\x7b', '\x7d'].contains character

/-- Three equal marks alone at the start of a line begin or end a document. -/
def beginsDocumentMark (text : List Char) : Bool :=
  (text.take 3 == ['-', '-', '-'] || text.take 3 == ['.', '.', '.']) && beginsGap (text.drop 3)

/-- Other line breaks are read as line feeds. -/
def unifyBreaks : List Char → List Char
  | '\r' :: '\n' :: rest => '\n' :: unifyBreaks rest
  | '\r' :: rest => '\n' :: unifyBreaks rest
  | '\u0085' :: rest => '\n' :: unifyBreaks rest
  | character :: rest => character :: unifyBreaks rest
  | [] => []

/-- Control characters and noncharacters of the basic plane are not allowed in a text. -/
def isAllowed (character : Char) : Bool :=
  let code := character.toNat
  code == 9 || code == 10 || code == 13 || (0x20 ≤ code && code ≤ 0x7E) || code == 0x85 ||
    (0xA0 ≤ code && code != 0xFFFE && code != 0xFFFF)

def isOrderMark (character : Char) : Bool :=
  character == '\uFEFF'

end SchemaInference.Yaml
