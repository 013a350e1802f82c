/-
This file shows that both written forms of a value split into the tokens of the value.
-/

import SchemaInference.Json.Printer
import SchemaInference.Json.Token
import SchemaInference.Proofs.Json.Part

namespace SchemaInference.Json

open Text Token

/-! Texts in quotes -/

theorem hexNumeral?_of_lt {code : Nat} (low : code < 0x20) :
    hexNumeral? ['0', '0', hexChar (code / 16), hexChar (code % 16)] = some code := by
  have each : ∀ value : Fin 0x20,
      hexNumeral? ['0', '0', hexChar (value.val / 16), hexChar (value.val % 16)] =
        some value.val := by decide
  exact each ⟨code, low⟩

/-- An escaped character is read as one code unit. -/
theorem scanUnits?_escape (character : Char) (rest : List Char) :
    scanUnits? (escape character ++ rest) =
      (scanUnits? rest).map fun read => (character.toNat :: read.1, read.2) := by
  unfold escape
  split
  case h_8 =>
      dsimp only
      split
      · next low =>
          simp only [List.cons_append, List.nil_append, scanUnits?, hexNumeral?_of_lt low]
          cases scanUnits? rest <;> rfl
      · next visible =>
          rw [List.singleton_append, scanUnits?, if_neg visible]
          · cases scanUnits? rest <;> rfl
          all_goals simp_all
  all_goals
    simp only [List.cons_append, List.nil_append]
    rw [scanUnits?]
    · simp only [shortEscape?]
      cases scanUnits? rest <;> rfl
    · simp

theorem scanUnits?_flatMap_escape (characters rest : List Char) :
    scanUnits? (characters.flatMap escape ++ '"' :: rest) =
      some (characters.map Char.toNat, rest) := by
  induction characters with
  | nil => rfl
  | cons first others inductionHypothesis =>
      rw [List.flatMap_cons, List.append_assoc, scanUnits?_escape, inductionHypothesis]
      rfl

/-- No character is a surrogate. -/
theorem not_isSurrogate_toNat (character : Char) :
    isHighSurrogate character.toNat = false ∧ isLowSurrogate character.toNat = false := by
  have valid := character.valid
  simp only [UInt32.isValidChar, Nat.isValidChar] at valid
  simp only [isHighSurrogate, isLowSurrogate, Char.toNat, Bool.and_eq_false_iff,
    decide_eq_false_iff_not]
  omega

theorem joinSurrogates?_map_toNat (characters : List Char) :
    joinSurrogates? (characters.map Char.toNat) = some characters := by
  induction characters with
  | nil => rfl
  | cons first rest inductionHypothesis =>
      obtain ⟨high, low⟩ := not_isSurrogate_toNat first
      cases rest with
      | nil => simp [joinSurrogates?, high, low]
      | cons second others =>
          rw [List.map_cons, List.map_cons, joinSurrogates?, high, low, ← List.map_cons,
            inductionHypothesis]
          simp

theorem next?_quote (text : String) (rest : List Char) :
    next? (quote text ++ rest) = some (.string (some text), rest) := by
  rw [quote, List.append_assoc, List.cons_append, List.singleton_append, next?,
    scanUnits?_flatMap_escape]
  simp only [Option.bind_eq_bind, Option.bind_some, joinSurrogates?_map_toNat, Option.map_some,
    String.ofList_toList]

/-! Integers -/

/-- The other tokens begin with these characters, and the last four are the spaces. -/
def otherStarts : List Char :=
  ['[', ']', '\x7b', '\x7d', ':', ',', 'n', 't', 'f', '"', ' ', '\t', '\n', '\r']

theorem not_mem_otherStarts {first : Char} (numeral : isDigit first = true ∨ first = '-') :
    first ∉ otherStarts := by
  have others : otherStarts.all (fun other => !isDigit other && other != '-') = true := by decide
  intro listed
  have other := List.all_eq_true.mp others first listed
  rcases numeral with digit | rfl
  · simp [digit] at other
  · simp at other

theorem next?_of_numeral {first : Char} {rest : List Char}
    (numeral : isDigit first = true ∨ first = '-') :
    next? (first :: rest) = (Literal.read? (first :: rest)).map fun read =>
      (.number read.1.number?, read.2) := by
  have apart := not_mem_otherStarts numeral
  simp only [otherStarts, List.mem_cons, List.not_mem_nil, or_false, not_or] at apart
  rw [next?]
  · cases Literal.read? (first :: rest) <;> rfl
  all_goals simp [apart]

theorem next?_number {number : Number} (integer : number.IsInteger) {rest : List Char}
    (delimited : Delimited rest) :
    next? (number.text ++ rest) = some (.number (some number), rest) := by
  obtain ⟨first, others, spelled, numeral⟩ := integer.exists_text_eq_cons
  obtain ⟨literal, read, same⟩ := integer.read?_text delimited
  rw [spelled, List.cons_append] at read ⊢
  rw [next?_of_numeral numeral, read, Option.map_some, same]

/-! Splitting -/

theorem split?_of_isSpace {character : Char} (space : isSpace character = true)
    (rest : List Char) : split? (character :: rest) = split? rest := by
  rw [split?, if_pos space]

theorem split?_of_next? {text rest : List Char} {token : Token}
    (solid : ∀ character ∈ text.head?, isSpace character = false)
    (read : next? text = some (token, rest)) : split? text = (split? rest).map (token :: ·) := by
  cases text with
  | nil => cases read
  | cons character others =>
      have visible : isSpace character = false := solid character rfl
      rw [split?, visible]
      simp only [Bool.false_eq_true, if_false]
      split
      · next missing =>
          rw [read] at missing
          cases missing
      · next other remaining found =>
          rw [read] at found
          obtain ⟨rfl, rfl⟩ := Prod.mk.inj (Option.some.inj found)
          rfl

theorem split?_cons {character : Char} {rest later : List Char} {token : Token}
    (solid : isSpace character = false) (read : next? (character :: rest) = some (token, later)) :
    split? (character :: rest) = (split? later).map (token :: ·) := by
  refine split?_of_next? ?_ read
  rintro _ ⟨⟩
  exact solid

theorem split?_quote (text : String) (rest : List Char) :
    split? (quote text ++ rest) = (split? rest).map (.string (some text) :: ·) :=
  split?_cons (by decide) (next?_quote text rest)

theorem split?_number {number : Number} (integer : number.IsInteger) {rest : List Char}
    (delimited : Delimited rest) :
    split? (number.text ++ rest) = (split? rest).map (.number (some number) :: ·) := by
  obtain ⟨first, others, spelled, numeral⟩ := integer.exists_text_eq_cons
  have solid : isSpace first = false := by
    have apart := not_mem_otherStarts numeral
    simp only [otherStarts, List.mem_cons, List.not_mem_nil, or_false, not_or] at apart
    simp [isSpace, apart]
  have read := next?_number integer delimited
  rw [spelled, List.cons_append] at read ⊢
  exact split?_cons solid read

theorem split?_spaces {spaces : List Char} (blank : ∀ character ∈ spaces, isSpace character = true)
    (rest : List Char) : split? (spaces ++ rest) = split? rest := by
  induction spaces with
  | nil => rfl
  | cons character spaces inductionHypothesis =>
      rw [List.cons_append, split?_of_isSpace (blank character List.mem_cons_self)]
      exact inductionHypothesis fun other listed => blank other (List.mem_cons_of_mem _ listed)

theorem isSpace_of_mem_lineBreak {level : Nat} {character : Char}
    (listed : character ∈ lineBreak level) : isSpace character = true := by
  rcases List.mem_cons.mp listed with rfl | later
  · decide
  · rw [List.eq_of_mem_replicate later]
    decide

/-! Tokens of values -/

/-- The tokens of a value without parts. -/
def scalarTokens : Json → List Token
  | null => [.null]
  | boolean value => [.boolean value]
  | number value => [.number (some value)]
  | string text => [.string (some text)]
  | array _ => [.openArray, .closeArray]
  | object _ => [.openObject, .closeObject]

mutual

/-- The tokens of a value stand in the order in which its parts are written. -/
def tokens : Json → List Token
  | array (first :: rest) => .openArray :: tokens first ++ itemTokens rest
  | object ((key, first) :: rest) =>
      .openObject :: .string (some key) :: .colon :: tokens first ++ memberTokens rest
  | value => scalarTokens value

def itemTokens : List Json → List Token
  | [] => [.closeArray]
  | item :: rest => .comma :: tokens item ++ itemTokens rest

def memberTokens : List (String × Json) → List Token
  | [] => [.closeObject]
  | (key, value) :: rest =>
      .comma :: .string (some key) :: .colon :: tokens value ++ memberTokens rest

end

theorem split?_scalarText {value : Json} (integral : value.Integral) {rest : List Char}
    (delimited : Delimited rest) :
    split? (scalarText value ++ rest) = (split? rest).map (scalarTokens value ++ ·) := by
  cases value with
  | null => exact split?_cons rfl rfl
  | boolean value => cases value <;> exact split?_cons rfl rfl
  | number value => exact split?_number (integral_number_iff.mp integral) delimited
  | string text => exact split?_quote text rest
  | array | object =>
      show split? (_ :: _ :: rest) = _
      rw [split?_cons rfl rfl, split?_cons rfl rfl, Option.map_map]
      rfl

theorem delimited_compactItems (items : List Json) (rest : List Char) :
    Delimited (compactItems items ++ rest) := by
  cases items <;> exact delimited_cons (by decide)

theorem delimited_compactMembers (members : List (String × Json)) (rest : List Char) :
    Delimited (compactMembers members ++ rest) := by
  cases members <;> exact delimited_cons (by decide)

mutual

/-- The compact form of a value splits into its tokens. -/
theorem split?_compact : (value : Json) → value.Integral → {rest : List Char} → Delimited rest →
    split? (compact value ++ rest) = (split? rest).map (tokens value ++ ·)
  | null, integral, _, delimited | boolean _, integral, _, delimited
  | number _, integral, _, delimited | string _, integral, _, delimited
  | array [], integral, _, delimited | object [], integral, _, delimited =>
      split?_scalarText integral delimited
  | array (first :: rest), integral, after, _ => by
      obtain ⟨firstIntegral, restIntegral⟩ :=
        List.forall_mem_cons.mp (integral_array_iff.mp integral)
      have head := split?_compact first firstIntegral (delimited_compactItems rest after)
      have tail := split?_compactItems rest restIntegral after
      rw [compact, List.append_assoc, List.cons_append, split?_cons rfl rfl, head, tail]
      simp [tokens, Function.comp_def]
  | object ((key, first) :: rest), integral, after, _ => by
      obtain ⟨firstIntegral, restIntegral⟩ :=
        List.forall_mem_cons.mp (integral_object_iff.mp integral)
      have head := split?_compact first firstIntegral (delimited_compactMembers rest after)
      have tail := split?_compactMembers rest restIntegral after
      simp only [compact, List.append_assoc, List.cons_append]
      rw [split?_cons rfl rfl, split?_quote, split?_cons rfl rfl, head, tail]
      simp [tokens, Function.comp_def]

theorem split?_compactItems : (items : List Json) → (∀ item ∈ items, item.Integral) →
    (rest : List Char) →
      split? (compactItems items ++ rest) = (split? rest).map (itemTokens items ++ ·)
  | [], _, _ => split?_cons rfl rfl
  | item :: items, integral, after => by
      obtain ⟨itemIntegral, itemsIntegral⟩ := List.forall_mem_cons.mp integral
      have head := split?_compact item itemIntegral (delimited_compactItems items after)
      have tail := split?_compactItems items itemsIntegral after
      rw [compactItems, List.append_assoc, List.cons_append, split?_cons rfl rfl, head, tail]
      simp [itemTokens, Function.comp_def]

theorem split?_compactMembers : (members : List (String × Json)) →
    (∀ member ∈ members, member.2.Integral) → (rest : List Char) →
      split? (compactMembers members ++ rest) = (split? rest).map (memberTokens members ++ ·)
  | [], _, _ => split?_cons rfl rfl
  | (key, value) :: members, integral, after => by
      obtain ⟨valueIntegral, membersIntegral⟩ := List.forall_mem_cons.mp integral
      have head := split?_compact value valueIntegral (delimited_compactMembers members after)
      have tail := split?_compactMembers members membersIntegral after
      simp only [compactMembers, List.append_assoc, List.cons_append]
      rw [split?_cons rfl rfl, split?_quote, split?_cons rfl rfl, head, tail]
      simp [memberTokens, Function.comp_def]

end

theorem delimited_indentedItems (level : Nat) (items : List Json) (rest : List Char) :
    Delimited (indentedItems level items ++ rest) := by
  cases items <;> exact delimited_cons (by decide)

theorem delimited_indentedMembers (level : Nat) (members : List (String × Json))
    (rest : List Char) : Delimited (indentedMembers level members ++ rest) := by
  cases members <;> exact delimited_cons (by decide)

theorem split?_lineBreak (level : Nat) (rest : List Char) :
    split? (lineBreak level ++ rest) = split? rest :=
  split?_spaces (fun _ => isSpace_of_mem_lineBreak) rest

mutual

/-- The indented form of a value splits into its tokens, whatever the level of its brackets is. -/
theorem split?_indentedAt (level : Nat) : (value : Json) → value.Integral → {rest : List Char} →
    Delimited rest → split? (indentedAt level value ++ rest) = (split? rest).map (tokens value ++ ·)
  | null, integral, _, delimited | boolean _, integral, _, delimited
  | number _, integral, _, delimited | string _, integral, _, delimited
  | array [], integral, _, delimited | object [], integral, _, delimited =>
      split?_scalarText integral delimited
  | array (first :: rest), integral, after, _ => by
      obtain ⟨firstIntegral, restIntegral⟩ :=
        List.forall_mem_cons.mp (integral_array_iff.mp integral)
      have head := split?_indentedAt (level + 1) first firstIntegral
        (delimited_indentedItems level rest after)
      have tail := split?_indentedItems level rest restIntegral after
      simp only [indentedAt, List.append_assoc, List.cons_append]
      rw [split?_cons rfl rfl, split?_lineBreak, head, tail]
      simp [tokens, Function.comp_def]
  | object ((key, first) :: rest), integral, after, _ => by
      obtain ⟨firstIntegral, restIntegral⟩ :=
        List.forall_mem_cons.mp (integral_object_iff.mp integral)
      have head := split?_indentedAt (level + 1) first firstIntegral
        (delimited_indentedMembers level rest after)
      have tail := split?_indentedMembers level rest restIntegral after
      simp only [indentedAt, List.append_assoc, List.cons_append]
      rw [split?_cons rfl rfl, split?_lineBreak, split?_quote, split?_cons rfl rfl,
        split?_of_isSpace rfl, head, tail]
      simp [tokens, Function.comp_def]

theorem split?_indentedItems (level : Nat) : (items : List Json) →
    (∀ item ∈ items, item.Integral) → (rest : List Char) →
      split? (indentedItems level items ++ rest) = (split? rest).map (itemTokens items ++ ·)
  | [], _, after => by
      rw [indentedItems, List.append_assoc, split?_lineBreak]
      exact split?_cons rfl rfl
  | item :: items, integral, after => by
      obtain ⟨itemIntegral, itemsIntegral⟩ := List.forall_mem_cons.mp integral
      have head := split?_indentedAt (level + 1) item itemIntegral
        (delimited_indentedItems level items after)
      have tail := split?_indentedItems level items itemsIntegral after
      simp only [indentedItems, List.append_assoc, List.cons_append]
      rw [split?_cons rfl rfl, split?_lineBreak, head, tail]
      simp [itemTokens, Function.comp_def]

theorem split?_indentedMembers (level : Nat) : (members : List (String × Json)) →
    (∀ member ∈ members, member.2.Integral) → (rest : List Char) →
      split? (indentedMembers level members ++ rest) = (split? rest).map (memberTokens members ++ ·)
  | [], _, after => by
      rw [indentedMembers, List.append_assoc, split?_lineBreak]
      exact split?_cons rfl rfl
  | (key, value) :: members, integral, after => by
      obtain ⟨valueIntegral, membersIntegral⟩ := List.forall_mem_cons.mp integral
      have head := split?_indentedAt (level + 1) value valueIntegral
        (delimited_indentedMembers level members after)
      have tail := split?_indentedMembers level members membersIntegral after
      simp only [indentedMembers, List.append_assoc, List.cons_append]
      rw [split?_cons rfl rfl, split?_lineBreak, split?_quote, split?_cons rfl rfl,
        split?_of_isSpace rfl, head, tail]
      simp [memberTokens, Function.comp_def]

end

end SchemaInference.Json
