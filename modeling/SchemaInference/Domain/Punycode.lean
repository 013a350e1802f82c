/-
This file decodes Punycode, which writes a text with few ASCII characters. Main statement: each
number that is read leaves a shorter text.
-/

import SchemaInference.Text.Numeral

namespace SchemaInference.Domain.Punycode

open Text

def isAscii (character : Char) : Bool :=
  character.toNat < 0x80

/-- The letters are the digits below 26. -/
def digit? (character : Char) : Option Nat :=
  if 'a' ≤ character && character ≤ 'z' then some (character.toNat - 'a'.toNat)
  else if isDigit character then some (26 + digitValue character)
  else none

/-- A digit below the threshold of its place ends a number. -/
def threshold (place bias : Nat) : Nat :=
  if place ≤ bias then 1 else if bias + 26 ≤ place then 26 else place - bias

/-- This function counts in steps of 36 how often a number must be divided to become small. -/
def scale (delta : Nat) : Nat × Nat :=
  if 455 < delta then ((scale (delta / 35)).1 + 36, (scale (delta / 35)).2) else (0, delta)
termination_by delta
decreasing_by all_goals omega

/-- The bias follows the size of the last number, so that similar numbers stay short. -/
def adapt (delta count : Nat) (isFirst : Bool) : Nat :=
  let damped := if isFirst then delta / 700 else delta / 2
  let (steps, rest) := scale (damped + damped / count)
  steps + 36 * rest / (rest + 38)

/-- This function reads a number. The weight of each place depends on the thresholds before it. -/
def number? (bias : Nat) : Nat → Nat → List Char → Option (Nat × List Char)
  | _, _, [] => none
  | place, weight, character :: rest =>
      match digit? character with
      | none => none
      | some digit =>
          let limit := threshold place bias
          if digit < limit then some (digit * weight, rest)
          else
            (number? bias (place + 36) (weight * (36 - limit)) rest).map fun next =>
              (digit * weight + next.1, next.2)

theorem length_of_number? {bias place weight value : Nat} {written rest : List Char}
    (read : number? bias place weight written = some (value, rest)) :
    rest.length < written.length := by
  induction written generalizing place weight value with
  | nil => simp [number?] at read
  | cons character written inductionHypothesis =>
      rw [number?] at read
      split at read
      · simp at read
      · simp only at read
        split at read
        · simp only [Option.some.injEq, Prod.mk.injEq] at read
          simp [← read.2]
        · simp only [Option.map_eq_some_iff, Prod.mk.injEq] at read
          obtain ⟨⟨next, remaining⟩, found, -, rfl⟩ := read
          simpa using Nat.lt_succ_of_lt (inductionHypothesis found)

/-- The progress of a text that is decoded. The next character stands at or after the place and has
the code or a greater one. -/
structure Progress where
  decoded : List Char
  code : Nat
  place : Nat
  bias : Nat

/-- A number is the way to the next character, in places of the text and then in codes. -/
def Progress.insert? (progress : Progress) (delta : Nat) : Option Progress :=
  let count := progress.decoded.length + 1
  let way := progress.place + delta
  let code := progress.code + way / count
  let place := way % count
  if code.isValidChar then
    some ⟨progress.decoded.take place ++ Char.ofNat code :: progress.decoded.drop place, code,
      place + 1, adapt delta count (progress.place == 0)⟩
  else none

def decodeFrom? (progress : Progress) (written : List Char) : Option (List Char) :=
  if written.isEmpty then some progress.decoded
  else
    match _read : number? progress.bias 36 1 written with
    | none => none
    | some (delta, rest) =>
        match progress.insert? delta with
        | none => none
        | some next => decodeFrom? next rest
termination_by written.length
decreasing_by exact length_of_number? _read

/-- The ASCII characters of the text stand before the last hyphen. -/
def decode? (written : List Char) : Option (List Char) :=
  let numbers := (written.reverse.takeWhile (· != '-')).reverse
  let plain := (written.take (written.length - numbers.length)).dropLast
  if !plain.all isAscii || (plain.isEmpty && numbers.length < written.length) then none
  else decodeFrom? ⟨plain, 0x80, 0, 72⟩ numbers

end SchemaInference.Domain.Punycode
