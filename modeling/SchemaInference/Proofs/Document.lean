/-
This file shows that the text that is written for a value is read back as the value, where a source
serves it and where a field shows it as a string.
-/

import SchemaInference.Document
import SchemaInference.Proofs.Json.Reading
import SchemaInference.Scalar

namespace SchemaInference

namespace Json

/-- Arrays and objects have brackets around their parts. -/
def IsComposite : Json → Prop
  | array _ => True
  | object _ => True
  | _ => False

/-- The string form of a composite value is its compact text. -/
theorem IsComposite.coerce?_string {value : Json} (composite : value.IsComposite) :
    ScalarKind.string.coerce? value = some (.string value.compactText) := by
  cases value with
  | array | object => rfl
  | _ => exact composite.elim

end Json

theorem Document.decodeValue?_toUTF8 (text : String) :
    decodeValue? text.toUTF8 = Json.read? text.toList := by
  have decoded : String.fromUTF8? text.toUTF8 = some text := dif_pos text.isValidUTF8
  rw [decodeValue?, decoded, Option.bind_some]

/-- An object without doubles is decoded from its compact text. -/
theorem Document.decode_compactText {value : Json} (rooted : value.isObject = true)
    (canonical : value.Canonical) (integral : value.Integral) (shallow : value.nesting ≤ 127) :
    decode value.compactText.toUTF8 = .ok ⟨value, value.compactText.toUTF8⟩ := by
  have read : Json.read? value.compactText.toList = some value := by
    rw [Json.compactText, String.toList_ofList]
    exact Json.read?_compact canonical integral shallow
  rw [decode, decodeValue?_toUTF8, read]
  exact if_pos rooted

namespace Source

/-- The text that is written for a value without doubles is read back as this value. A source that
serves an object fetches it with its compact text, and the string form of an array or object inside
it is the text of this part. -/
theorem fetch_ofValue {value : Json} (rooted : value.isObject = true) (canonical : value.Canonical)
    (integral : value.Integral) (shallow : value.nesting ≤ 127) :
    (ofValue value).fetch = .ok ⟨value, value.compactText.toUTF8⟩ ∧
      ∀ part, value.Part part → part.IsComposite →
        ∃ text, ScalarKind.string.coerce? part = some (.string text) ∧
          Json.read? text.toList = some part := by
  have readPart : ∀ part, value.Part part → Json.read? part.compactText.toList = some part := by
    intro part inner
    rw [Json.compactText, String.toList_ofList]
    exact Json.read?_compact (canonical.part inner) (integral.part inner)
      (inner.nesting_le.trans shallow)
  constructor
  · have decoded : Document.decodeValue? value.compactText.toUTF8 = some value :=
      (Document.decodeValue?_toUTF8 _).trans (readPart value .refl)
    show Document.decode value.compactText.toUTF8 = _
    rw [Document.decode, decoded]
    exact if_pos rooted
  · exact fun part inner composite => ⟨_, composite.coerce?_string, readPart part inner⟩

/-- The bounds of both kinds of integers, empty brackets, keys with escapes and letters beyond
ASCII. -/
def wideDocument : Json :=
  .object [("", .object []),
    ("\"\\\n\x01", .array [.number (.negative ⟨Nat.pow 2 63 - 1, by decide⟩),
      .number (.natural 0xFFFFFFFFFFFFFFFF), .array [], .null, .boolean true]),
    ("k", .object [("\u007f", .string "é😀/")])]

theorem fetch_ofValue_wide :
    (ofValue wideDocument).fetch = .ok ⟨wideDocument, wideDocument.compactText.toUTF8⟩ ∧
      ∃ text, ScalarKind.string.coerce? (.object [("\u007f", .string "é😀/")]) =
          some (.string text) ∧
        Json.read? text.toList = some (.object [("\u007f", .string "é😀/")]) := by
  have canonical : wideDocument.Canonical := by
    simp only [wideDocument, Json.Canonical, Json.CanonicalMembers, Json.CanonicalItems,
      Entries.Ascending]
    decide
  have integral : wideDocument.Integral := by
    simp [wideDocument, Number.IsInteger]
  obtain ⟨fetched, parts⟩ := fetch_ofValue rfl canonical integral (by decide)
  have child : wideDocument.Child (.object [("\u007f", .string "é😀/")]) :=
    .member (List.mem_cons_of_mem _ (List.mem_cons_of_mem _ List.mem_cons_self))
  exact ⟨fetched, parts _ (.single child) trivial⟩

end Source

end SchemaInference
