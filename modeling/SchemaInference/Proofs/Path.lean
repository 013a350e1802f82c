/-
This file says which paths their dotted notation reads back.
-/

import SchemaInference.Path
import SchemaInference.Proofs.Text

namespace SchemaInference

open Text

namespace Segment

/-- A plain name is not empty, holds no separator and is no word. Every index is plain. -/
def Plain : Segment → Prop
  | field name => name ≠ "" ∧ Path.separator ∉ name.toList ∧ ¬ IsWord name.toList
  | index _ => True

theorem Plain.text_ne_nil {segment : Segment} (plain : segment.Plain) : segment.text ≠ [] := by
  cases segment with
  | field name => exact String.toList_eq_nil_iff.not.mpr plain.1
  | index position => exact digits_ne_nil _

theorem Plain.separator_not_mem {segment : Segment} (plain : segment.Plain) :
    Path.separator ∉ segment.text := by
  cases segment with
  | field name => exact plain.2.1
  | index position =>
      intro inside
      have digit : isDigit Path.separator = true := mem_digits_isDigit inside
      cases digit

/-- The segment that is read back from the text of a segment. -/
def reread (segment : Segment) : Segment :=
  ofPart segment.text

@[simp] theorem reread_index (position : UInt64) : (index position).reread = index position := by
  rw [reread, text, ofPart, word?_digits]

theorem reread_field_of_not_isWord {name : String} (noWord : ¬ IsWord name.toList) :
    (field name).reread = field name := by
  rw [← isSome_word?_iff, Option.not_isSome_iff_eq_none] at noWord
  rw [reread, text, ofPart, noWord, String.ofList_toList]

/-- A plain segment is read back as it is. -/
theorem Plain.reread_eq {segment : Segment} (plain : segment.Plain) : segment.reread = segment := by
  cases segment with
  | field name => exact reread_field_of_not_isWord plain.2.2
  | index position => exact reread_index position

/-- A part without separators is read as a plain segment. -/
theorem plain_ofPart {part : List Char} (nonempty : part ≠ [])
    (clean : Path.separator ∉ part) : (ofPart part).Plain := by
  unfold ofPart
  split
  · trivial
  · next noWord =>
      refine ⟨String.toList_eq_nil_iff.not.mp ?_, ?_, ?_⟩
      · rwa [String.toList_ofList]
      · rwa [String.toList_ofList]
      · rw [String.toList_ofList, ← isSome_word?_iff, noWord]
        exact Bool.false_ne_true

/-- The text of a part is the part itself, or it begins and ends with digits. -/
theorem text_ofPart (part : List Char) :
    (ofPart part).text = part ∨ ∀ character ∈ (ofPart part).text, isDigit character = true := by
  unfold ofPart
  split
  · exact Or.inr fun character => mem_digits_isDigit
  · exact Or.inl String.toList_ofList

theorem solidStart_ofPart {part : List Char} (solid : SolidStart part) :
    SolidStart (ofPart part).text := by
  rcases text_ofPart part with same | digits
  · rwa [same]
  · exact fun first listed => not_isBlank_of_isDigit (digits first (List.mem_of_mem_head? listed))

theorem solidEnd_ofPart {part : List Char} (solid : SolidEnd part) :
    SolidEnd (ofPart part).text := by
  rcases text_ofPart part with same | digits
  · rwa [same]
  · exact fun last listed => not_isBlank_of_isDigit (digits last (List.mem_of_mem_getLast? listed))

end Segment

namespace Path

/-- The segments of a dotted path are plain, the first does not begin with a blank and the last does
not end with one. -/
structure Dotted (path : Path) : Prop where
  plain : ∀ segment ∈ path, segment.Plain
  start : ∀ first ∈ path.head?, SolidStart first.text
  stop : ∀ last ∈ path.getLast?, SolidEnd last.text

/-- Joined parts begin as the first of them. -/
theorem head?_intercalate {first : List Char} (rest : List (List Char)) (nonempty : first ≠ []) :
    ([separator].intercalate (first :: rest)).head? = first.head? := by
  obtain ⟨character, others, rfl⟩ := List.exists_cons_of_ne_nil nonempty
  cases rest <;> simp [List.intercalate]

/-- Joined parts end as the last of them. -/
theorem getLast?_intercalate {parts : List (List Char)} {last : List Char}
    (listed : last ∈ parts.getLast?) (nonempty : last ≠ []) :
    ([separator].intercalate parts).getLast? = last.getLast? := by
  induction parts with
  | nil => cases listed
  | cons first rest inductionHypothesis =>
      cases rest with
      | nil =>
          obtain rfl : first = last := Option.some.inj listed
          simp [List.intercalate]
      | cons second others =>
          have later := inductionHypothesis (by simpa using listed)
          have present : last.getLast?.isSome := by simpa using nonempty
          rw [← later] at present ⊢
          have split : [separator].intercalate (first :: second :: others) =
              first ++ separator :: [separator].intercalate (second :: others) := by
            simp [List.intercalate]
          rw [split, List.getLast?_append, List.getLast?_cons]
          obtain ⟨character, found⟩ := Option.isSome_iff_exists.mp present
          simp [found]

theorem toList_name (path : Path) : (name path).toList = path.text :=
  String.toList_ofList

/-- The texts of the segments can be told apart in the joined text. None is empty or holds the
separator, and no blank stands at an end. -/
structure Separable (path : Path) : Prop where
  nonempty : ∀ segment ∈ path, segment.text ≠ []
  separated : ∀ segment ∈ path, separator ∉ segment.text
  start : ∀ first ∈ path.head?, SolidStart first.text
  stop : ∀ last ∈ path.getLast?, SolidEnd last.text

/-- The text of a separable path has no blanks to trim. -/
theorem Separable.trim_text {path : Path} (separable : path.Separable) :
    trim path.text = path.text := by
  cases path with
  | nil => rfl
  | cons first rest =>
      apply trim_eq_self
      · intro character listed
        rw [text, List.map_cons, head?_intercalate _
          (separable.nonempty first List.mem_cons_self)] at listed
        exact separable.start first rfl character listed
      · intro character listed
        have last := List.getLast?_eq_some_getLast (List.cons_ne_nil first rest)
        have lastText : ((first :: rest).getLast (List.cons_ne_nil _ _)).text ∈
            ((first :: rest).map Segment.text).getLast? := by
          rw [List.getLast?_map, last]
          rfl
        rw [text, getLast?_intercalate lastText
          (separable.nonempty _ (List.getLast_mem _))] at listed
        exact separable.stop _ last character listed

/-- Every segment of a separable path is read back from its own text. -/
theorem Separable.read_name {path : Path} (separable : path.Separable) :
    read (name path) = .ok (path.map Segment.reread) := by
  rw [read, toList_name, separable.trim_text]
  by_cases root : path = []
  · subst root
    rfl
  · have cut : parts path.text = path.map Segment.text := by
      refine cutAt_intercalate (by simpa using root) fun part listed => ?_
      obtain ⟨segment, inside, rfl⟩ := List.mem_map.mp listed
      exact separable.separated segment inside
    have full : path.map Segment.text ≠ [[]] := by
      intro single
      obtain ⟨segment, rfl, empty⟩ := List.map_eq_singleton_iff.mp single
      exact separable.nonempty segment List.mem_cons_self empty
    have present : path.text.isEmpty = false := by
      rw [List.isEmpty_eq_false_iff]
      intro empty
      rw [empty] at cut
      exact full cut.symm
    have noEmpty : (path.map Segment.text).any List.isEmpty = false := by
      rw [List.any_eq_false]
      intro part listed
      obtain ⟨segment, inside, rfl⟩ := List.mem_map.mp listed
      simpa using separable.nonempty segment inside
    have read : (path.map Segment.text).map Segment.ofPart = path.map Segment.reread :=
      List.map_map
    simp only [present, cut, noEmpty, Bool.false_eq_true, if_false, read]

theorem Dotted.separable {path : Path} (dotted : path.Dotted) : path.Separable where
  nonempty := fun segment inside => (dotted.plain segment inside).text_ne_nil
  separated := fun segment inside => (dotted.plain segment inside).separator_not_mem
  start := dotted.start
  stop := dotted.stop

/-- A dotted path is read back from its name. -/
theorem Dotted.read_name {path : Path} (dotted : path.Dotted) : read (name path) = .ok path := by
  have restored : path.map Segment.reread = path :=
    (List.map_congr_left fun segment inside => (dotted.plain segment inside).reread_eq).trans
      (List.map_id _)
  rw [dotted.separable.read_name, restored]

/-- Only dotted paths are read. -/
theorem dotted_of_read {text : String} {path : Path} (found : read text = .ok path) :
    path.Dotted := by
  unfold read at found
  dsimp only at found
  split at found
  · obtain rfl := Except.ok.inj found
    exact ⟨by simp, by simp, by simp⟩
  · split at found
    · cases found
    · next noEmpty =>
        obtain rfl := Except.ok.inj found
        have present : ∀ part ∈ parts (trim text.toList), part ≠ [] := by
          intro part listed empty
          exact noEmpty (List.any_eq_true.mpr ⟨part, listed, List.isEmpty_iff.mpr empty⟩)
        have whole := intercalate_parts (trim text.toList)
        constructor
        case plain =>
          intro segment listed
          obtain ⟨part, inside, rfl⟩ := List.mem_map.mp listed
          exact Segment.plain_ofPart (present part inside) (not_mem_of_mem_cutAt inside)
        case start =>
          intro segment listed
          rw [List.head?_map] at listed
          obtain ⟨part, first, rfl⟩ := Option.map_eq_some_iff.mp listed
          apply Segment.solidStart_ofPart
          have begins := solidStart_trim text.toList
          obtain ⟨rest, cut⟩ := List.head?_eq_some_iff.mp first
          rw [← whole, cut, SolidStart, head?_intercalate _
            (present part (List.mem_of_mem_head? first))] at begins
          exact begins
        case stop =>
          intro segment listed
          rw [List.getLast?_map] at listed
          obtain ⟨part, last, rfl⟩ := Option.map_eq_some_iff.mp listed
          apply Segment.solidEnd_ofPart
          have ends := solidEnd_trim text.toList
          rw [← whole, SolidEnd, getLast?_intercalate last
            (present part (List.mem_of_mem_getLast? last))] at ends
          exact ends

/-- The dotted paths are exactly those that their name gives back, and every path that is read is
one of them. -/
theorem read_name_iff :
    (∀ path : Path, read (name path) = .ok path ↔ path.Dotted) ∧
      ∀ (text : String) (path : Path), read text = .ok path →
        path.Dotted ∧ read (name path) = .ok path :=
  ⟨fun _ => ⟨dotted_of_read, Dotted.read_name⟩,
    fun _ _ found => ⟨dotted_of_read found, (dotted_of_read found).read_name⟩⟩

/-- Blanks, a plus sign and leading zeros are read, but they are not printed again. -/
example : read " items.+07.tier " = .ok [.field "items", .index 7, .field "tier"] := by
  decide +kernel

end Path

end SchemaInference
