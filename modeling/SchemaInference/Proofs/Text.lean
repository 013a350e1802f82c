/-
This file states what cutting, trimming and reading words do to a text.
-/

import SchemaInference.Text.Blank
import SchemaInference.Text.Cut
import SchemaInference.Text.Numeral
import Mathlib.Algebra.Group.Nat.Defs
import Mathlib.Data.List.DropRight
import Mathlib.Data.List.TakeWhile

namespace SchemaInference.Text

theorem cutAt_eq_splitOn (separator : Char) (text : List Char) :
    cutAt separator text = text.splitOn separator := by
  induction text with
  | nil => rfl
  | cons character rest inductionHypothesis =>
      rw [cutAt, List.splitOn_cons_eq_if_modifyHead, inductionHypothesis]
      by_cases same : character = separator
      · simp [same]
      · rw [if_neg same, if_neg (by simpa using same)]
        cases cut : rest.splitOn separator with
        | nil => exact absurd cut (List.splitOn_ne_nil _ _)
        | cons first others => rfl

/-- Joined parts are cut where they were joined, when no part holds the separator. -/
theorem cutAt_intercalate {separator : Char} {parts : List (List Char)} (nonempty : parts ≠ [])
    (clean : ∀ part ∈ parts, separator ∉ part) :
    cutAt separator ([separator].intercalate parts) = parts :=
  (cutAt_eq_splitOn _ _).trans (List.splitOn_intercalate separator clean nonempty)

/-- No part of a cut text holds the separator. -/
theorem not_mem_of_mem_cutAt {separator : Char} {text part : List Char}
    (listed : part ∈ cutAt separator text) : separator ∉ part := by
  induction text generalizing part with
  | nil =>
      obtain rfl := List.mem_singleton.mp listed
      exact List.not_mem_nil
  | cons character rest inductionHypothesis =>
      rw [cutAt] at listed
      split at listed
      · rcases List.mem_cons.mp listed with rfl | later
        · exact List.not_mem_nil
        · exact inductionHypothesis later
      · next different =>
          cases cut : cutAt separator rest with
          | nil => exact absurd cut (cutAt_ne_nil separator rest)
          | cons first others =>
              rw [cut] at listed inductionHypothesis
              rcases List.mem_cons.mp listed with rfl | later
              · intro inside
                rcases List.mem_cons.mp inside with same | deeper
                · exact different same.symm
                · exact inductionHypothesis List.mem_cons_self deeper
              · exact inductionHypothesis (List.mem_cons_of_mem _ later)

/-- The text does not begin with a blank. -/
def SolidStart (text : List Char) : Prop :=
  ∀ first ∈ text.head?, isBlank first = false

/-- The text does not end with a blank. -/
def SolidEnd (text : List Char) : Prop :=
  ∀ last ∈ text.getLast?, isBlank last = false

theorem trimEnd_eq_rdropWhile (text : List Char) : trimEnd text = text.rdropWhile isBlank := rfl

/-- Only blanks at the ends are trimmed. -/
theorem trim_eq_self {text : List Char} (start : SolidStart text) (stop : SolidEnd text) :
    trim text = text := by
  have front : text.dropWhile isBlank = text := by
    cases text with
    | nil => rfl
    | cons first rest => exact List.dropWhile_cons_of_neg (by simp [start first rfl])
  rw [trim, front, trimEnd_eq_rdropWhile, List.rdropWhile_eq_self_iff]
  intro nonempty
  simp [stop _ (List.getLast?_eq_some_getLast nonempty)]

theorem solidEnd_trimEnd (text : List Char) : SolidEnd (trimEnd text) := by
  intro last listed
  obtain ⟨nonempty, rfl⟩ := List.mem_getLast?_eq_getLast listed
  exact Bool.eq_false_iff.mpr (List.rdropWhile_last_not isBlank text nonempty)

theorem solidEnd_trim (text : List Char) : SolidEnd (trim text) :=
  solidEnd_trimEnd _

theorem solidStart_trim (text : List Char) : SolidStart (trim text) := by
  intro first listed
  obtain ⟨removed, whole⟩ := List.rdropWhile_prefix isBlank (text.dropWhile isBlank)
  have begins : first ∈ (text.dropWhile isBlank).head? := by
    rw [← whole, List.head?_append, ← trimEnd_eq_rdropWhile]
    exact Option.mem_def.mpr (Option.or_eq_some_iff.mpr (Or.inl listed))
  have solid := List.head?_dropWhile_not isBlank text
  rw [Option.mem_def.mp begins] at solid
  exact solid

theorem not_isBlank_of_isDigit {character : Char} (digit : isDigit character) :
    isBlank character = false := by
  simp only [isDigit, Bool.and_eq_true, decide_eq_true_eq, Char.le_def, UInt32.le_iff_toNat_le]
    at digit
  have lower : 48 ≤ character.toNat := digit.1
  have upper : character.toNat ≤ 57 := digit.2
  simp only [isBlank, Bool.or_eq_false_iff, Bool.and_eq_false_iff, decide_eq_false_iff_not,
    beq_eq_false_iff_ne]
  omega

/-- The text is a numeral below two to the power 64, with or without a plus sign. -/
def IsWord (text : List Char) : Prop :=
  ∃ numeral, (text = numeral ∨ text = '+' :: numeral) ∧ numeral ≠ [] ∧
    (∀ character ∈ numeral, isDigit character = true) ∧ numeralValue numeral < 2 ^ 64

theorem natural?_eq_some_iff {text : List Char} {value : Nat} :
    natural? text = some value ↔
      text ≠ [] ∧ (∀ character ∈ text, isDigit character = true) ∧ numeralValue text = value := by
  unfold natural?
  split
  · next bad =>
      simp only [Bool.or_eq_true, List.isEmpty_iff, Bool.not_eq_true', List.all_eq_false] at bad
      simp only [reduceCtorEq, false_iff]
      rintro ⟨nonempty, digits, _⟩
      rcases bad with empty | ⟨character, inside, other⟩
      · exact nonempty empty
      · exact other (digits character inside)
  · next good =>
      simp only [Bool.or_eq_true, List.isEmpty_iff, Bool.not_eq_true', not_or, Bool.not_eq_false,
        List.all_eq_true] at good
      rw [Option.some.injEq]
      exact ⟨fun same => ⟨good.1, good.2, same⟩, fun shape => shape.2.2⟩

/-- This function removes one plus sign. -/
def unsigned : List Char → List Char
  | '+' :: rest => rest
  | text => text

theorem word?_eq (text : List Char) : word? text =
    (natural? (unsigned text)).bind fun value =>
      if value < UInt64.size then some (UInt64.ofNat value) else none := by
  cases text with
  | nil => rfl
  | cons first rest =>
      by_cases plus : first = '+'
      · rw [plus]
        rfl
      · simp [word?, unsigned, plus]

theorem unsigned_of_isDigit {text : List Char}
    (digits : ∀ character ∈ text, isDigit character = true) : unsigned text = text := by
  unfold unsigned
  split
  · have plus : isDigit '+' = true := digits '+' List.mem_cons_self
    cases plus
  · rfl

theorem unsigned_cases (text : List Char) : text = unsigned text ∨ text = '+' :: unsigned text := by
  unfold unsigned
  split
  · exact Or.inr rfl
  · exact Or.inl rfl

theorem isSome_word?_iff {text : List Char} : (word? text).isSome ↔ IsWord text := by
  have small : (word? text).isSome ↔
      ∃ value, natural? (unsigned text) = some value ∧ value < 2 ^ 64 := by
    rw [word?_eq]
    cases natural? (unsigned text) with
    | none => simp
    | some value =>
        simp only [Option.bind_some, Option.some.injEq, exists_eq_left']
        by_cases fits : value < UInt64.size
        · simp [fits]
        · simp [fits]
  rw [small]
  constructor
  · rintro ⟨value, read, fits⟩
    obtain ⟨nonempty, digits, rfl⟩ := natural?_eq_some_iff.mp read
    exact ⟨unsigned text, unsigned_cases text, nonempty, digits, fits⟩
  · rintro ⟨numeral, written, nonempty, digits, fits⟩
    have same : unsigned text = numeral := by
      rcases written with rfl | rfl
      · exact unsigned_of_isDigit digits
      · rfl
    exact ⟨_, natural?_eq_some_iff.mpr ⟨same ▸ nonempty, same ▸ digits, rfl⟩, same ▸ fits⟩

theorem mem_digits_isDigit {value : Nat} {character : Char} (inside : character ∈ digits value) :
    isDigit character = true :=
  List.all_eq_true.mp (all_isDigit_digits value) character inside

/-- The digits of a word are read back. -/
theorem word?_digits (value : UInt64) : word? (digits value.toNat) = some value := by
  rw [word?_eq, unsigned_of_isDigit fun _ => mem_digits_isDigit, natural?_digits, Option.bind_some,
    if_pos value.toNat_lt_size, UInt64.ofNat_toNat]

end SchemaInference.Text
