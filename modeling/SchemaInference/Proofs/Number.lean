/-
This file shows that an integer is read back from its written form.
-/

import SchemaInference.Number.Literal
import SchemaInference.Proofs.Text

namespace SchemaInference

open Text

/-- The text does not go on with the number before it. -/
def Delimited (rest : List Char) : Prop :=
  ∀ character ∈ rest.head?, isDigit character = false ∧ character ∉ ['.', 'e', 'E']

theorem delimited_cons {character : Char} {rest : List Char}
    (apart : isDigit character = false ∧ character ∉ ['.', 'e', 'E']) :
    Delimited (character :: rest) := by
  intro other listed
  obtain rfl := Option.some.inj listed
  exact apart

/-- No positive number begins with the digit zero. -/
theorem head?_digits_ne {value : Nat} (positive : 0 < value) : (digits value).head? ≠ some '0' := by
  induction value using Nat.strongRecOn with
  | ind value inductionHypothesis =>
      rw [digits]
      split
      · next small =>
          have each : ∀ digit : Fin 10, 0 < digit.val → digitChar digit.val ≠ '0' := by decide
          exact fun same => each ⟨value, small⟩ positive (Option.some.inj same)
      · next large =>
          rw [List.head?_append_of_ne_nil _ (digits_ne_nil _)]
          exact inductionHypothesis (value / 10) (by omega) (by omega)

theorem exists_digits_eq_cons (value : Nat) :
    ∃ first rest, digits value = first :: rest ∧ isDigit first = true := by
  obtain ⟨first, rest, spelled⟩ := List.exists_cons_of_ne_nil (digits_ne_nil value)
  have inside : first ∈ digits value := by
    rw [spelled]
    exact List.mem_cons_self
  exact ⟨first, rest, spelled, mem_digits_isDigit inside⟩

namespace Literal

theorem takeWhile_digits_append (value : Nat) {rest : List Char} (delimited : Delimited rest) :
    (digits value ++ rest).takeWhile isDigit = digits value ∧
      (digits value ++ rest).dropWhile isDigit = rest := by
  have all : ∀ character ∈ digits value, isDigit character = true := fun _ => mem_digits_isDigit
  rw [List.takeWhile_append_of_pos all, List.dropWhile_append_of_pos all]
  cases rest with
  | nil => simp
  | cons first others =>
      have stops := (delimited first rfl).1
      simp [stops]

theorem readFraction?_of_delimited {rest : List Char} (delimited : Delimited rest) :
    readFraction? rest = some (none, rest) := by
  unfold readFraction?
  split
  · next tail => exact absurd (delimited '.' rfl).2 (by decide)
  · rfl

theorem readExponent?_of_delimited {rest : List Char} (delimited : Delimited rest) :
    readExponent? rest = some (none, rest) := by
  cases rest with
  | nil => rfl
  | cons mark tail =>
      have apart := (delimited mark rfl).2
      simp only [List.mem_cons, List.not_mem_nil, or_false, not_or] at apart
      simp [readExponent?, apart]

theorem readUnsigned?_digits (negative : Bool) (value : Nat) {rest : List Char}
    (delimited : Delimited rest) :
    readUnsigned? negative (digits value ++ rest) =
      some (⟨negative, digits value, none, none⟩, rest) := by
  obtain ⟨taken, left⟩ := takeWhile_digits_append value delimited
  have nonempty : (digits value).isEmpty = false :=
    List.isEmpty_eq_false_iff.mpr (digits_ne_nil value)
  have plain : ((digits value).head? == some '0' && (digits value).length != 1) = false := by
    rcases Nat.eq_zero_or_pos value with rfl | positive
    · rw [digits_of_lt (by decide)]
      rfl
    · rw [beq_false_of_ne (head?_digits_ne positive), Bool.false_and]
  simp only [readUnsigned?, taken, left, nonempty, plain, readFraction?_of_delimited delimited,
    readExponent?_of_delimited delimited, Option.bind_eq_bind, Option.bind_some, Bool.or_false,
    Bool.false_eq_true, if_false]

theorem read?_digits (value : Nat) {rest : List Char} (delimited : Delimited rest) :
    read? (digits value ++ rest) = some (⟨false, digits value, none, none⟩, rest) := by
  unfold read?
  split
  · next tail same =>
      obtain ⟨first, others, spelled, digit⟩ := exists_digits_eq_cons value
      rw [spelled] at same
      obtain rfl := (List.cons.inj same).1
      exact absurd digit (by decide)
  · exact readUnsigned?_digits false value delimited

theorem number?_natural (value : UInt64) :
    number? ⟨false, digits value.toNat, none, none⟩ = some (.natural value) := by
  have small : value.toNat < UInt64.size := value.toNat_lt_size
  simp [number?, numeralValue_digits, small]

theorem number?_negative (predecessor : Fin (Nat.pow 2 63)) :
    number? ⟨true, digits (predecessor.val + 1), none, none⟩ = some (.negative predecessor) := by
  have fits : predecessor.val < Nat.pow 2 63 := predecessor.isLt
  simp [number?, numeralValue_digits, fits]

end Literal

namespace Number

/-- An integer is written without a fraction and without an exponent. -/
def IsInteger : Number → Prop
  | float _ => False
  | _ => True

/-- A written integer begins with a digit or its sign. -/
theorem IsInteger.exists_text_eq_cons {number : Number} (integer : number.IsInteger) :
    ∃ first rest, number.text = first :: rest ∧ (isDigit first = true ∨ first = '-') := by
  cases number with
  | natural value =>
      obtain ⟨first, rest, spelled, digit⟩ := exists_digits_eq_cons value.toNat
      exact ⟨first, rest, spelled, Or.inl digit⟩
  | negative predecessor => exact ⟨'-', _, rfl, Or.inr rfl⟩
  | float value => exact integer.elim

/-- A written integer is read as a literal of this value, up to the text after it. -/
theorem IsInteger.read?_text {number : Number} (integer : number.IsInteger) {rest : List Char}
    (delimited : Delimited rest) :
    ∃ literal, Literal.read? (number.text ++ rest) = some (literal, rest) ∧
      literal.number? = some number := by
  cases number with
  | natural value =>
      exact ⟨_, Literal.read?_digits value.toNat delimited, Literal.number?_natural value⟩
  | negative predecessor =>
      exact ⟨_, Literal.readUnsigned?_digits true _ delimited, Literal.number?_negative predecessor⟩
  | float value => exact integer.elim

end Number

end SchemaInference
