/-
This file splits a JSON text into tokens.
-/

import SchemaInference.Number.Literal
import SchemaInference.Text.Numeral

namespace SchemaInference.Json

open Text

/-- A string or number literal may be well formed and still have no value: its escapes may leave a
surrogate unpaired, or it may be out of range. -/
inductive Token where
  | openArray
  | closeArray
  | openObject
  | closeObject
  | colon
  | comma
  | null
  | boolean (value : Bool)
  | number (value : Option Number)
  | string (text : Option String)
deriving DecidableEq

namespace Token

def isSpace (character : Char) : Bool :=
  character == ' ' || character == '\t' || character == '\n' || character == '\r'

/-- The character that a one-letter escape stands for. -/
def shortEscape? : Char → Option Char
  | '"' => some '"'
  | '\\' => some '\\'
  | '/' => some '/'
  | 'b' => some '\x08'
  | 'f' => some '\x0c'
  | 'n' => some '\n'
  | 'r' => some '\r'
  | 't' => some '\t'
  | _ => none

/-- This function reads the code units of a string up to its closing quote. -/
def scanUnits? : List Char → Option (List Nat × List Char)
  | [] => none
  | '"' :: rest => some ([], rest)
  | '\\' :: 'u' :: first :: second :: third :: fourth :: rest => do
      let unit ← hexNumeral? [first, second, third, fourth]
      let (units, final) ← scanUnits? rest
      some (unit :: units, final)
  | '\\' :: escaped :: rest => do
      let character ← shortEscape? escaped
      let (units, final) ← scanUnits? rest
      some (character.toNat :: units, final)
  | character :: rest =>
      if character.toNat < 0x20 then none
      else do
        let (units, final) ← scanUnits? rest
        some (character.toNat :: units, final)

def isHighSurrogate (unit : Nat) : Bool :=
  0xD800 ≤ unit && unit < 0xDC00

def isLowSurrogate (unit : Nat) : Bool :=
  0xDC00 ≤ unit && unit < 0xE000

/-- A high surrogate needs the low surrogate that follows it, and the reverse. -/
def joinSurrogates? : List Nat → Option (List Char)
  | [] => some []
  | [unit] => if isHighSurrogate unit || isLowSurrogate unit then none else some [Char.ofNat unit]
  | unit :: next :: rest =>
      if isHighSurrogate unit then
        if isLowSurrogate next then do
          let characters ← joinSurrogates? rest
          some (Char.ofNat (0x10000 + (unit - 0xD800) * 0x400 + (next - 0xDC00)) :: characters)
        else none
      else if isLowSurrogate unit then none
      else do
        let characters ← joinSurrogates? (next :: rest)
        some (Char.ofNat unit :: characters)

/-- This function reads one token. The text does not begin with a space. -/
def next? : List Char → Option (Token × List Char)
  | '[' :: rest => some (openArray, rest)
  | ']' :: rest => some (closeArray, rest)
  | '\x7b' :: rest => some (openObject, rest)
  | '\x7d' :: rest => some (closeObject, rest)
  | ':' :: rest => some (colon, rest)
  | ',' :: rest => some (comma, rest)
  | 'n' :: 'u' :: 'l' :: 'l' :: rest => some (null, rest)
  | 't' :: 'r' :: 'u' :: 'e' :: rest => some (boolean true, rest)
  | 'f' :: 'a' :: 'l' :: 's' :: 'e' :: rest => some (boolean false, rest)
  | '"' :: rest => do
      let (units, final) ← scanUnits? rest
      some (string ((joinSurrogates? units).map String.ofList), final)
  | text => do
      let (literal, rest) ← Literal.read? text
      some (number literal.number?, rest)

theorem length_scanUnits {text rest : List Char} {units : List Nat}
    (read : scanUnits? text = some (units, rest)) : rest.length < text.length := by
  induction text using scanUnits?.induct generalizing units rest with
  | case1 => simp [scanUnits?] at read
  | case2 tail =>
      simp only [scanUnits?, Option.some.injEq, Prod.mk.injEq] at read
      simp [read.2]
  | case3 first second third fourth tail inductionHypothesis =>
      simp only [scanUnits?, Option.bind_eq_bind, Option.bind_eq_some_iff] at read
      obtain ⟨unit, _, inner, scanned, result⟩ := read
      simp only [Option.some.injEq, Prod.mk.injEq] at result
      have shorter := inductionHypothesis scanned
      rw [← result.2]
      simp only [List.length_cons]
      omega
  | case4 escaped tail _ inductionHypothesis =>
      rw [scanUnits?] at read
      · simp only [Option.bind_eq_bind, Option.bind_eq_some_iff] at read
        obtain ⟨unit, _, inner, scanned, result⟩ := read
        simp only [Option.some.injEq, Prod.mk.injEq] at result
        have shorter := inductionHypothesis scanned
        rw [← result.2]
        simp only [List.length_cons]
        omega
      · assumption
  | case5 character tail _ _ _ control => simp_all [scanUnits?]
  | case6 character tail _ _ _ visible inductionHypothesis =>
      rw [scanUnits?] at read
      · rw [if_neg visible, Option.bind_eq_bind, Option.bind_eq_some_iff] at read
        obtain ⟨inner, scanned, result⟩ := read
        simp only [Option.some.injEq, Prod.mk.injEq] at result
        have shorter := inductionHypothesis scanned
        rw [← result.2]
        simp only [List.length_cons]
        omega
      all_goals assumption

theorem length_next {text rest : List Char} {token : Token}
    (read : next? text = some (token, rest)) : rest.length < text.length := by
  unfold next? at read
  split at read
  case h_10 tail =>
      rw [Option.bind_eq_bind, Option.bind_eq_some_iff] at read
      obtain ⟨inner, scanned, result⟩ := read
      simp only [Option.some.injEq, Prod.mk.injEq] at result
      have shorter := length_scanUnits scanned
      rw [← result.2]
      simp only [List.length_cons]
      omega
  case h_11 =>
      rw [Option.bind_eq_bind, Option.bind_eq_some_iff] at read
      obtain ⟨inner, scanned, result⟩ := read
      simp only [Option.some.injEq, Prod.mk.injEq] at result
      rw [← result.2]
      exact Literal.length_read scanned
  all_goals
    simp only [Option.some.injEq, Prod.mk.injEq] at read
    rw [← read.2]
    simp only [List.length_cons]
    omega

/-- This function splits a whole text and drops the spaces between the tokens. -/
def split? (text : List Char) : Option (List Token) :=
  match text with
  | [] => some []
  | character :: rest =>
      if isSpace character then split? rest
      else
        match _read : next? (character :: rest) with
        | none => none
        | some (token, remaining) => (split? remaining).map (token :: ·)
termination_by text.length
decreasing_by
  · simp
  · exact length_next _read

end Token

end SchemaInference.Json
