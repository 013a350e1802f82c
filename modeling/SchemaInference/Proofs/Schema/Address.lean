/-
This file says for which paths the dotted notation leads to the same place as the path itself.
-/

import SchemaInference.Proofs.Inference.Assembled
import SchemaInference.Proofs.Path
import SchemaInference.Proofs.Resolved
import SchemaInference.Proofs.Schema.Walk

namespace SchemaInference

open Text

namespace Segment

/-- A clean name is not empty and holds neither the separator nor a blank. Every index is clean. -/
def Clean : Segment → Prop
  | field name => name ≠ "" ∧
      ∀ character ∈ name.toList, character ≠ Path.separator ∧ isBlank character = false
  | index _ => True

-- The instance that Mathlib finds goes through all characters and not through those of the name.
instance : (segment : Segment) → Decidable segment.Clean
  | field _ => @instDecidableAnd _ _ _ (List.decidableBAll _ _)
  | index _ => instDecidableTrue

/-- A name that reads as a word is spelled as an index is, without a plus sign and without leading
zeros. -/
def Spelled : Segment → Prop
  | field name => IsWord name.toList → ∃ position, name = (index position).name
  | index _ => True

variable {segment : Segment}

theorem Clean.text_ne_nil (clean : segment.Clean) : segment.text ≠ [] := by
  cases segment with
  | field name => exact String.toList_eq_nil_iff.not.mpr clean.1
  | index position => exact digits_ne_nil _

theorem Clean.of_mem_text (clean : segment.Clean) {character : Char}
    (inside : character ∈ segment.text) :
    character ≠ Path.separator ∧ isBlank character = false := by
  cases segment with
  | field name => exact clean.2 character inside
  | index position =>
      have digit : isDigit character = true := mem_digits_isDigit inside
      refine ⟨?_, not_isBlank_of_isDigit digit⟩
      rintro rfl
      cases digit

/-- Exactly the spelled segments keep their names when they are read back. -/
theorem name_reread_iff : segment.reread.name = segment.name ↔ segment.Spelled := by
  cases segment with
  | index position => simp [Spelled]
  | field name =>
      by_cases isWord : IsWord name.toList
      · obtain ⟨position, read⟩ := Option.isSome_iff_exists.mp (isSome_word?_iff.mpr isWord)
        have same : (field name).reread = index position := by rw [reread, text, ofPart, read]
        rw [same, name_field]
        constructor
        · exact fun equal _ => ⟨position, equal.symm⟩
        · intro spelled
          obtain ⟨other, rfl⟩ := spelled isWord
          rw [Segment.name, String.toList_ofList, text, word?_digits] at read
          rw [Option.some.inj read]
      · rw [reread_field_of_not_isWord isWord]
        exact iff_of_true rfl fun word => absurd word isWord

end Segment

namespace Path

theorem separable_of_clean {path : Path} (clean : ∀ segment ∈ path, segment.Clean) :
    path.Separable where
  nonempty := fun segment inside => (clean segment inside).text_ne_nil
  separated := fun segment inside listed => ((clean segment inside).of_mem_text listed).1 rfl
  start := fun first listed _ begins =>
    ((clean first (List.mem_of_mem_head? listed)).of_mem_text (List.mem_of_mem_head? begins)).2
  stop := fun last listed _ ends =>
    ((clean last (List.mem_of_mem_getLast? listed)).of_mem_text (List.mem_of_mem_getLast? ends)).2

end Path

namespace Json

theorem at?_cons (segment : Segment) (rest : Path) (document : Json) :
    document.at? (segment :: rest) = (document.step? segment).bind (·.at? rest) := rfl

/-- A spelled segment that is read back takes the same step. -/
theorem step?_reread {segment : Segment} (spelled : segment.Spelled) {value inner : Json}
    (found : value.step? segment = some inner) : value.step? segment.reread = some inner := by
  cases value with
  | object members =>
      rw [step?_object] at found ⊢
      rwa [Segment.name_reread_iff.mpr spelled]
  | array items =>
      cases segment with
      | field name => cases found
      | index position => rwa [Segment.reread_index]
  | _ => cases segment <;> cases found

theorem at?_reread {path : Path} (spelled : ∀ segment ∈ path, segment.Spelled)
    {document value : Json} (found : document.at? path = some value) :
    document.at? (path.map Segment.reread) = some value := by
  induction path generalizing document with
  | nil => exact found
  | cons segment rest inductionHypothesis =>
      obtain ⟨first, later⟩ := List.forall_mem_cons.mp spelled
      rw [at?_cons, Option.bind_eq_some_iff] at found
      obtain ⟨inner, stepped, found⟩ := found
      rw [List.map_cons, at?_cons, step?_reread first stepped, Option.bind_some]
      exact inductionHypothesis later found

/-- This document has nothing but the objects that the path leads through. -/
def along (path : Path) : Json :=
  path.foldr (fun segment inner => object [(segment.name, inner)]) null

theorem at?_along (path : Path) : (along path).at? path = some null := by
  induction path with
  | nil => rfl
  | cons segment rest inductionHypothesis =>
      rw [along, List.foldr_cons, ← along, at?_cons, step?_object]
      simpa using inductionHypothesis

/-- A path that is read back leads through these objects only when it is spelled. -/
theorem spelled_of_at?_along {path : Path} {value : Json}
    (found : (along path).at? (path.map Segment.reread) = some value) :
    ∀ segment ∈ path, segment.Spelled := by
  induction path with
  | nil => exact List.forall_mem_nil _
  | cons segment rest inductionHypothesis =>
      rw [along, List.foldr_cons, ← along, List.map_cons, at?_cons, step?_object,
        List.lookup_cons] at found
      rw [List.forall_mem_cons, ← Segment.name_reread_iff]
      cases same : segment.reread.name == segment.name with
      | false => simp [same] at found
      | true =>
          rw [same] at found
          exact ⟨beq_iff_eq.mp same, inductionHypothesis found⟩

end Json

namespace Schema

variable {schema : Schema}

/-- A spelled segment that is read back goes on in the same way. A numeric name cannot select a field
of a list, so no name is taken for a step into a list. -/
theorem advance?_reread {segment : Segment} (spelled : segment.Spelled) {current : Option Located}
    {located : Located} (advanced : schema.advance? current segment = some located) :
    schema.advance? current segment.reread = some located := by
  cases segment with
  | index position => rwa [Segment.reread_index]
  | field name =>
      rw [advance?_eq_some_iff] at advanced ⊢
      rcases advanced with ⟨_, _, _, _, _, index, _⟩ | ⟨container, field, inside, selected, rfl⟩
      · cases index
      · rw [← Segment.name_reread_iff.mpr spelled] at selected
        exact Or.inr ⟨container, field, inside, selected, rfl⟩

theorem walk?_reread {path : Path} (spelled : ∀ segment ∈ path, segment.Spelled)
    {current : Option Located} (walked : schema.walk? path = some current) :
    schema.walk? (path.map Segment.reread) = some current := by
  induction path using List.reverseRecOn generalizing current with
  | nil => exact walked
  | append_singleton path segment inductionHypothesis =>
      rw [List.forall_mem_append, List.forall_mem_singleton] at spelled
      rw [walk?_concat, Option.bind_eq_some_iff] at walked
      obtain ⟨before, earlier, last⟩ := walked
      obtain ⟨located, advanced, rfl⟩ := Option.map_eq_some_iff.mp last
      rw [List.map_append, List.map_singleton, walk?_concat, inductionHypothesis spelled.1 earlier,
        Option.bind_some, advance?_reread spelled.2 advanced, Option.map_some]

end Schema

namespace Path

/-- The dotted notation of a clean path is always read. The path that is read leads to the same
value in every document in which the path leads to one, and to the same place in the schema of the
document, exactly when every name that reads as a word is spelled as an index is. -/
theorem dotted_leads_same_iff (path : Path) (clean : ∀ segment ∈ path, segment.Clean) :
    ∃ parsed, read (name path) = .ok parsed ∧
      ((∀ document value, document.at? path = some value →
          document.at? parsed = some value ∧
            ∀ (assembler : Assembler) schema located, assembler.assemble document = .ok schema →
              schema.locate path = .ok located → schema.locate parsed = .ok located) ↔
        ∀ segment ∈ path, segment.Spelled) := by
  refine ⟨path.map Segment.reread, (separable_of_clean clean).read_name, ?_, ?_⟩
  · intro leads
    exact Json.spelled_of_at?_along (leads (Json.along path) .null (Json.at?_along path)).1
  · intro spelled document value found
    refine ⟨Json.at?_reread spelled found, fun _ schema located _ walked => ?_⟩
    rw [Schema.locate_eq_ok_iff] at walked ⊢
    exact Schema.walk?_reread spelled walked

/-- A year names a member that holds a list. -/
def yearsDocument : Json :=
  .object [("years", .object [("2024", .array [.boolean true])])]

/-- The year is read back as an index, and it still names the member and its field. -/
theorem dotted_leads_same_iff_year :
    let path : Path := [.field "years", .field "2024", .index 0]
    let parsed : Path := [.field "years", .index 2024, .index 0]
    (∀ segment ∈ path, segment.Clean) ∧ read (name path) = .ok parsed ∧
      yearsDocument.at? parsed = some (.boolean true) ∧
      ∃ schema located,
        (Assembler.ofOptions { Options.standard with strictNames := false }).assemble
          yearsDocument = .ok schema ∧
        schema.locate parsed = .ok located ∧ located.field.name = "2024" ∧
        located.type = .scalar .boolean := by
  intro path parsed
  have clean : ∀ segment ∈ path, segment.Clean := by decide
  have spelled : ∀ segment ∈ path, segment.Spelled := by
    have years : ¬ IsWord "years".toList := isSome_word?_iff.not.mp (by decide)
    simp only [path, List.mem_cons, List.not_mem_nil, or_false]
    rintro segment (rfl | rfl | rfl)
    · exact fun word => absurd word years
    · exact fun _ => ⟨2024, by decide +kernel⟩
    · trivial
  have readable : read (name path) = .ok parsed := by decide +kernel
  obtain ⟨other, same, leads⟩ := dotted_leads_same_iff path clean
  obtain rfl : parsed = other := Except.ok.inj (readable.symm.trans same)
  obtain ⟨found, located⟩ := leads.mpr spelled yearsDocument (.boolean true) rfl
  exact ⟨clean, readable, found, _, _, rfl,
    located (.ofOptions { Options.standard with strictNames := false }) _ _ rfl rfl, rfl, rfl⟩

/-- The names are numerals with a plus sign or with leading zeros. Their dotted notation leads to the
member with the plain numeral. -/
theorem dotted_numeral_leads_elsewhere :
    let document := Json.object [("+7", .string "a"), ("007", .string "b"), ("7", .string "c")]
    document.Canonical ∧
      (∀ segment ∈ [Segment.field "+7", .field "007"], segment.Clean) ∧
      document.at? [.field "+7"] = some (.string "a") ∧
      document.at? [.field "007"] = some (.string "b") ∧
      read (name [.field "+7"]) = .ok [.index 7] ∧ read (name [.field "007"]) = .ok [.index 7] ∧
      document.at? [.index 7] = some (.string "c") := by
  intro document
  have canonical : document.Canonical := by
    simp only [document, Json.Canonical, Json.CanonicalMembers, Entries.Ascending]
    decide
  have clean : ∀ segment ∈ [Segment.field "+7", .field "007"], segment.Clean := by decide
  have seven : (Segment.index 7).name = "7" := Segment.name_index_of_lt (by decide)
  have third : document.at? [.index 7] = some (.string "c") := by
    rw [Json.at?_cons, Json.step?_object, seven]
    rfl
  exact ⟨canonical, clean, rfl, rfl, by decide +kernel, by decide +kernel, third⟩

end Path

end SchemaInference
