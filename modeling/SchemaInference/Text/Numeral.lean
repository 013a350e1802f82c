/-
This file writes natural numbers in decimal and hexadecimal and reads them back.
-/

namespace SchemaInference.Text

def isDigit (character : Char) : Bool :=
  '0' ≤ character && character ≤ '9'

def digitChar (digit : Nat) : Char :=
  Char.ofNat ('0'.toNat + digit)

def digitValue (character : Char) : Nat :=
  character.toNat - '0'.toNat

/-- The decimal digits carry no leading zero. -/
def digits (value : Nat) : List Char :=
  if value < 10 then [digitChar value] else digits (value / 10) ++ [digitChar (value % 10)]

/-- This function gives the number whose digits are the characters. -/
def numeralValue (characters : List Char) : Nat :=
  characters.foldl (fun value character => 10 * value + digitValue character) 0

/-- A numeral is a nonempty run of digits; leading zeros are allowed. -/
def natural? (characters : List Char) : Option Nat :=
  if characters.isEmpty || !characters.all isDigit then none else some (numeralValue characters)

/-- A word is a numeral below two to the power 64 that may carry a plus sign. -/
def word? (characters : List Char) : Option UInt64 :=
  let unsigned := match characters with
    | '+' :: rest => rest
    | _ => characters
  (natural? unsigned).bind fun value =>
    if value < UInt64.size then some (UInt64.ofNat value) else none

def hexValue? (character : Char) : Option Nat :=
  if isDigit character then some (digitValue character)
  else if 'a' ≤ character && character ≤ 'f' then some (character.toNat - 'a'.toNat + 10)
  else if 'A' ≤ character && character ≤ 'F' then some (character.toNat - 'A'.toNat + 10)
  else none

def hexChar (digit : Nat) : Char :=
  if digit < 10 then digitChar digit else Char.ofNat ('a'.toNat + (digit - 10))

/-- This function reads a run of digits in a radix of at most sixteen. -/
def radixNumeral? (radix : Nat) (characters : List Char) : Option Nat :=
  characters.foldlM (fun value character =>
    (hexValue? character).bind fun digit =>
      if digit < radix then some (radix * value + digit) else none) 0

def hexNumeral? (characters : List Char) : Option Nat :=
  radixNumeral? 16 characters

theorem numeralValue_concat (characters : List Char) (last : Char) :
    numeralValue (characters ++ [last]) = 10 * numeralValue characters + digitValue last := by
  simp [numeralValue]

theorem digitValue_digitChar {digit : Nat} (small : digit < 10) :
    digitValue (digitChar digit) = digit := by
  have cases : ∀ value : Fin 10, digitValue (digitChar value.val) = value.val := by decide
  exact cases ⟨digit, small⟩

theorem isDigit_digitChar {digit : Nat} (small : digit < 10) : isDigit (digitChar digit) := by
  have cases : ∀ value : Fin 10, isDigit (digitChar value.val) = true := by decide
  exact cases ⟨digit, small⟩

theorem numeralValue_digits (value : Nat) : numeralValue (digits value) = value := by
  induction value using Nat.strongRecOn with
  | ind value inductionHypothesis =>
      rw [digits]
      split
      · next small => simp [numeralValue, digitValue_digitChar small]
      · next large =>
          rw [numeralValue_concat, inductionHypothesis (value / 10) (by omega),
            digitValue_digitChar (Nat.mod_lt _ (by decide))]
          omega

theorem all_isDigit_digits (value : Nat) : (digits value).all isDigit := by
  induction value using Nat.strongRecOn with
  | ind value inductionHypothesis =>
      rw [digits]
      split
      · next small => simp [isDigit_digitChar small]
      · next large =>
          simp only [List.all_append, List.all_cons, List.all_nil, Bool.and_true, Bool.and_eq_true]
          exact ⟨inductionHypothesis _ (by omega), isDigit_digitChar (Nat.mod_lt _ (by decide))⟩

theorem digits_of_lt {value : Nat} (small : value < 10) : digits value = [digitChar value] := by
  rw [digits, if_pos small]

theorem digits_ne_nil (value : Nat) : digits value ≠ [] := by
  rw [digits]
  split <;> simp

theorem natural?_digits (value : Nat) : natural? (digits value) = some value := by
  have nonempty : (digits value).isEmpty = false := by
    simpa using digits_ne_nil value
  simp [natural?, nonempty, all_isDigit_digits, numeralValue_digits]

end SchemaInference.Text
