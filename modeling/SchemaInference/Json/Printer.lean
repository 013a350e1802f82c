/-
This file writes JSON values, on one line or indented.
-/

import SchemaInference.Json.Value
import SchemaInference.Text.Numeral

namespace SchemaInference.Json

open Text

/-- Quotes, backslashes and control characters are escaped and nothing else. -/
def escape (character : Char) : List Char :=
  match character with
  | '"' => ['\\', '"']
  | '\\' => ['\\', '\\']
  | '\x08' => ['\\', 'b']
  | '\x0c' => ['\\', 'f']
  | '\n' => ['\\', 'n']
  | '\r' => ['\\', 'r']
  | '\t' => ['\\', 't']
  | _ =>
      let code := character.toNat
      if code < 0x20 then ['\\', 'u', '0', '0', hexChar (code / 16), hexChar (code % 16)]
      else [character]

def quote (text : String) : List Char :=
  '"' :: text.toList.flatMap escape ++ ['"']

/-- The written form of a value without parts. -/
def scalarText : Json → List Char
  | null => ['n', 'u', 'l', 'l']
  | boolean true => ['t', 'r', 'u', 'e']
  | boolean false => ['f', 'a', 'l', 's', 'e']
  | number value => value.text
  | string text => quote text
  | array _ => ['[', ']']
  | object _ => ['\x7b', '\x7d']

mutual

/-- The compact form has no spaces. -/
def compact : Json → List Char
  | array (first :: rest) => '[' :: compact first ++ compactItems rest
  | object ((key, first) :: rest) =>
      '\x7b' :: quote key ++ ':' :: compact first ++ compactMembers rest
  | value => scalarText value

def compactItems : List Json → List Char
  | [] => [']']
  | item :: rest => ',' :: compact item ++ compactItems rest

def compactMembers : List (String × Json) → List Char
  | [] => ['\x7d']
  | (key, value) :: rest => ',' :: quote key ++ ':' :: compact value ++ compactMembers rest

end

/-- Each level of brackets indents by two spaces. -/
def lineBreak (level : Nat) : List Char :=
  '\n' :: List.replicate (2 * level) ' '

mutual

/-- The indented form writes each item and each member on a line of its own. -/
def indentedAt (level : Nat) : Json → List Char
  | array (first :: rest) =>
      '[' :: lineBreak (level + 1) ++ indentedAt (level + 1) first ++ indentedItems level rest
  | object ((key, first) :: rest) =>
      '\x7b' :: lineBreak (level + 1) ++ quote key ++ ':' :: ' ' ::
        indentedAt (level + 1) first ++ indentedMembers level rest
  | value => scalarText value

def indentedItems (level : Nat) : List Json → List Char
  | [] => lineBreak level ++ [']']
  | item :: rest =>
      ',' :: lineBreak (level + 1) ++ indentedAt (level + 1) item ++ indentedItems level rest

def indentedMembers (level : Nat) : List (String × Json) → List Char
  | [] => lineBreak level ++ ['\x7d']
  | (key, value) :: rest =>
      ',' :: lineBreak (level + 1) ++ quote key ++ ':' :: ' ' ::
        indentedAt (level + 1) value ++ indentedMembers level rest

end

def indented (value : Json) : List Char :=
  indentedAt 0 value

def compactText (value : Json) : String :=
  String.ofList value.compact

def indentedText (value : Json) : String :=
  String.ofList value.indented

end SchemaInference.Json
