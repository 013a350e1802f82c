/-
This file reads scalars in single and double quotes.
-/

import SchemaInference.Text.Numeral
import SchemaInference.Yaml.Fold

namespace SchemaInference.Yaml.Quoted

open Text

/-- A folded gap and a character stand before the rest of the text. -/
def follow (gap : List Char) (character : Char) (scanned : List Char × List Char) :
    List Char × List Char :=
  (gap ++ character :: scanned.1, scanned.2)

/-- A line starts after a break, escaped or not. -/
def endsLine (gap : List Char) : Bool :=
  match gap.getLast? with
  | none => false
  | some last => isBreak last || last == '\\'

/-- No document may begin or end inside quotes. -/
def isInterrupted (gap text : List Char) : Bool :=
  endsLine gap && beginsDocumentMark text

/-- Between single quotes a quote is written twice. -/
def scanSingle? : List Char → List Char → Option (List Char × List Char)
  | gap, '\'' :: '\'' :: rest => (scanSingle? [] rest).map (follow (foldGap gap) '\'')
  | gap, '\'' :: rest => some (foldGap gap, rest)
  | gap, character :: rest =>
      if isGap character then scanSingle? (gap ++ [character]) rest
      else if isInterrupted gap (character :: rest) then none
      else (scanSingle? [] rest).map (follow (foldGap gap) character)
  | _, [] => none

def namedEscape? : Char → Option Char
  | '0' => some '\x00'
  | 'a' => some '\x07'
  | 'b' => some '\x08'
  | 't' => some '\t'
  | '\t' => some '\t'
  | 'n' => some '\n'
  | 'v' => some '\x0b'
  | 'f' => some '\x0c'
  | 'r' => some '\r'
  | 'e' => some '\x1b'
  | ' ' => some ' '
  | '"' => some '"'
  | '/' => some '/'
  | '\\' => some '\\'
  | 'N' => some '\u0085'
  | '_' => some '\u00a0'
  | 'L' => some '\u2028'
  | 'P' => some '\u2029'
  | _ => none

/-- A code written in an escape is a Unicode scalar value. -/
def codedCharacter? (digits : List Char) : Option Char :=
  (hexNumeral? digits).bind fun code => if code.isValidChar then some (Char.ofNat code) else none

/-- Between double quotes there are escapes. An escaped line break becomes part of the gap. -/
def scanDouble? : List Char → List Char → Option (List Char × List Char)
  | gap, '"' :: rest => some (foldEscapedGap gap, rest)
  | gap, '\\' :: 'x' :: a :: b :: rest => do
      let character ← codedCharacter? [a, b]
      (scanDouble? [] rest).map (follow (foldEscapedGap gap) character)
  | gap, '\\' :: 'u' :: a :: b :: c :: d :: rest => do
      let character ← codedCharacter? [a, b, c, d]
      (scanDouble? [] rest).map (follow (foldEscapedGap gap) character)
  | gap, '\\' :: 'U' :: a :: b :: c :: d :: e :: f :: g :: h :: rest => do
      let character ← codedCharacter? [a, b, c, d, e, f, g, h]
      (scanDouble? [] rest).map (follow (foldEscapedGap gap) character)
  | gap, '\\' :: escaped :: rest =>
      if isBreak escaped then scanDouble? (gap ++ ['\\']) rest
      else do
        let character ← namedEscape? escaped
        (scanDouble? [] rest).map (follow (foldEscapedGap gap) character)
  | gap, character :: rest =>
      if isGap character then scanDouble? (gap ++ [character]) rest
      else if isInterrupted gap (character :: rest) then none
      else (scanDouble? [] rest).map (follow (foldEscapedGap gap) character)
  | _, [] => none

end SchemaInference.Yaml.Quoted
