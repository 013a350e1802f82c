/-
This file reads the written forms of numbers: the strict form of documents and the free form that
a text may use for a double.
-/

import SchemaInference.Number.Basic

namespace SchemaInference

/-- A literal keeps the parts of a written number. A part that is not written is absent. -/
structure Literal where
  negative : Bool
  whole : List Char
  fraction : Option (List Char)
  exponent : Option Int

namespace Literal

open Text

/-- Every literal rounds to a double unless it is out of range. -/
def double? (literal : Literal) : Option Binary64 :=
  let fraction := literal.fraction.getD []
  Binary64.ofDecimal? literal.negative ((literal.whole ++ fraction).map digitValue)
    (literal.exponent.getD 0 - fraction.length)

/-- An integer literal that fits 64 bits stays an integer. Minus zero is a double. -/
def number? (literal : Literal) : Option Number :=
  let rounded := literal.double?.map Number.float
  if literal.fraction.isSome || literal.exponent.isSome then rounded
  else
    let value := numeralValue literal.whole
    if literal.negative then
      if value = 0 then rounded
      else if fits : value - 1 < Nat.pow 2 63 then some (.negative ⟨value - 1, fits⟩)
      else rounded
    else if value < UInt64.size then some (.natural (UInt64.ofNat value))
    else rounded

def readSign : List Char → Bool × List Char
  | '-' :: rest => (true, rest)
  | '+' :: rest => (false, rest)
  | rest => (false, rest)

/-- An exponent that is begun needs a digit. -/
def readExponent? : List Char → Option (Option Int × List Char)
  | [] => some (none, [])
  | mark :: rest =>
      if mark == 'e' || mark == 'E' then
        let (negative, unsigned) := readSign rest
        let written := unsigned.takeWhile isDigit
        if written.isEmpty then none
        else
          let size : Int := numeralValue written
          some (some (if negative then -size else size), unsigned.dropWhile isDigit)
      else some (none, mark :: rest)

/-- A decimal point is followed by a digit. -/
def readFraction? : List Char → Option (Option (List Char) × List Char)
  | '.' :: rest =>
      let written := rest.takeWhile isDigit
      if written.isEmpty then none else some (some written, rest.dropWhile isDigit)
  | rest => some (none, rest)

def readUnsigned? (negative : Bool) (text : List Char) : Option (Literal × List Char) :=
  let whole := text.takeWhile isDigit
  if whole.isEmpty || (whole.head? == some '0' && whole.length != 1) then none
  else do
    let (fraction, afterFraction) ← readFraction? (text.dropWhile isDigit)
    let (exponent, rest) ← readExponent? afterFraction
    some (⟨negative, whole, fraction, exponent⟩, rest)

/-- The strict form has no plus sign and no leading zero. -/
def read? : List Char → Option (Literal × List Char)
  | '-' :: rest => readUnsigned? true rest
  | text => readUnsigned? false text

/-- The free form allows a plus sign and needs a digit on one side of the point only. -/
def readFree? (text : List Char) : Option Literal := do
  let (negative, unsigned) := readSign text
  let whole := unsigned.takeWhile isDigit
  let (fraction, afterFraction) := match unsigned.dropWhile isDigit with
    | '.' :: rest => (rest.takeWhile isDigit, rest.dropWhile isDigit)
    | rest => ([], rest)
  if whole.isEmpty && fraction.isEmpty then none
  match ← readExponent? afterFraction with
  | (exponent, []) => some ⟨negative, whole, some fraction, exponent⟩
  | _ => none

theorem length_dropWhile_le (text : List Char) :
    (text.dropWhile isDigit).length ≤ text.length :=
  (List.dropWhile_sublist _).length_le

theorem length_readSign_le (text : List Char) : (readSign text).2.length ≤ text.length := by
  unfold readSign
  split <;> simp

theorem length_readExponent {text rest : List Char} {exponent : Option Int}
    (read : readExponent? text = some (exponent, rest)) : rest.length ≤ text.length := by
  unfold readExponent? at read
  split at read
  · simp_all
  · next mark tail =>
      split at read
      · dsimp only at read
        split at read
        · contradiction
        · simp only [Option.some.injEq, Prod.mk.injEq] at read
          rw [← read.2]
          have first := length_dropWhile_le (readSign tail).2
          have second := length_readSign_le tail
          simp only [List.length_cons]
          omega
      · simp only [Option.some.injEq, Prod.mk.injEq] at read
        exact Nat.le_of_eq (congrArg List.length read.2.symm)

theorem length_readFraction {text rest : List Char} {fraction : Option (List Char)}
    (read : readFraction? text = some (fraction, rest)) : rest.length ≤ text.length := by
  unfold readFraction? at read
  split at read
  · next tail =>
      dsimp only at read
      split at read
      · contradiction
      · simp only [Option.some.injEq, Prod.mk.injEq] at read
        rw [← read.2]
        have bound := length_dropWhile_le tail
        simp only [List.length_cons]
        omega
  · simp_all

theorem length_dropWhile_lt {text : List Char} (some : (text.takeWhile isDigit).isEmpty = false) :
    (text.dropWhile isDigit).length < text.length := by
  cases text with
  | nil => simp at some
  | cons head rest =>
      have digit : isDigit head = true := by
        cases decided : isDigit head with
        | true => rfl
        | false => simp [decided] at some
      rw [List.dropWhile_cons_of_pos digit]
      exact Nat.lt_succ_of_le (length_dropWhile_le rest)

theorem length_readUnsigned {negative : Bool} {text rest : List Char} {literal : Literal}
    (read : readUnsigned? negative text = some (literal, rest)) : rest.length < text.length := by
  unfold readUnsigned? at read
  dsimp only at read
  split at read
  · contradiction
  · next shape =>
      simp only [Bool.or_eq_true, not_or, Bool.not_eq_true] at shape
      rw [Option.bind_eq_bind, Option.bind_eq_some_iff] at read
      obtain ⟨fraction, fractionRead, read⟩ := read
      rw [Option.bind_eq_bind, Option.bind_eq_some_iff] at read
      obtain ⟨exponent, exponentRead, read⟩ := read
      simp only [Option.some.injEq, Prod.mk.injEq] at read
      have first := length_dropWhile_lt shape.1
      have second := length_readFraction fractionRead
      have third := length_readExponent exponentRead
      rw [← read.2]
      omega

theorem length_read {text rest : List Char} {literal : Literal}
    (read : read? text = some (literal, rest)) : rest.length < text.length := by
  unfold read? at read
  split at read
  · have shorter := length_readUnsigned read
    simp only [List.length_cons]
    omega
  · exact length_readUnsigned read

end Literal

end SchemaInference
