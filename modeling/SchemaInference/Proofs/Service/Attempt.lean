/-
This file says when a rebuild has a generation to publish and in which ways it fails.
-/

import SchemaInference.Service.Basic

namespace SchemaInference

namespace Outcome

variable {α β : Type} {first : Outcome α} {next : α → Outcome β}

theorem bind_eq_ok_iff {result : β} :
    first.bind next = .ok result ↔ ∃ value, first = .ok value ∧ next value = .ok result := by
  cases first <;> simp [Except.bind]

theorem bind_eq_error_iff {failure : Failure} :
    first.bind next = .error failure ↔
      first = .error failure ∨ ∃ value, first = .ok value ∧ next value = .error failure := by
  cases first <;> simp [Except.bind]

end Outcome

theorem Document.raw_of_decode {raw : ByteArray} {document : Document}
    (decoded : decode raw = .ok document) : document.raw = raw := by
  rw [decode] at decoded
  split at decoded
  · cases decoded
  · split at decoded
    · cases decoded
      rfl
    · cases decoded

namespace Source

variable {source : Source}

/-- A fetched document keeps the bytes that were served. -/
theorem fetch_eq_ok_iff {document : Document} :
    source.fetch = .ok document ↔
      source.answer = .ok document.raw ∧ Document.decode document.raw = .ok document := by
  rw [fetch, Outcome.bind_eq_ok_iff]
  constructor
  · rintro ⟨raw, served, decoded⟩
    rw [Document.raw_of_decode decoded]
    exact ⟨served, decoded⟩
  · rintro ⟨served, decoded⟩
    exact ⟨document.raw, served, decoded⟩

theorem fetch_eq_error_iff {failure : Failure} :
    source.fetch = .error failure ↔
      source.answer = .error failure ∨
        ∃ raw, source.answer = .ok raw ∧ Document.decode raw = .error failure :=
  Outcome.bind_eq_error_iff

end Source

/-- A generation is whole when its document was decoded from its bytes and its schema was
assembled from its document. -/
structure Generation.Whole (assembler : Assembler) (generation : Generation) : Prop where
  decoded : Document.decode generation.document.raw = .ok generation.document
  assembled : assembler.assemble generation.document.value = .ok generation.schema

/-- A rebuild fails in the source, in the bytes that the source served or in their document. -/
inductive Service.Fails (service : Service) (failure : Failure) : Prop where
  | fetch (withheld : service.source.answer = .error failure)
  | decode (raw : ByteArray) (served : service.source.answer = .ok raw)
      (malformed : Document.decode raw = .error failure)
  | assembly (document : Document) (served : service.source.answer = .ok document.raw)
      (decoded : Document.decode document.raw = .ok document)
      (refused : service.assembler.assemble document.value = .error failure)

namespace Service

variable {service : Service}

/-- A rebuild builds a whole generation under the next number from the bytes that are served. -/
theorem attempt_eq_ok_iff {generation : Generation} :
    service.attempt = .ok generation ↔
      generation.number = service.nextNumber ∧
        service.source.answer = .ok generation.document.raw ∧
        generation.Whole service.assembler := by
  constructor
  · intro built
    obtain ⟨document, fetched, built⟩ := Outcome.bind_eq_ok_iff.mp built
    obtain ⟨schema, assembled, built⟩ := Outcome.bind_eq_ok_iff.mp built
    obtain ⟨served, decoded⟩ := Source.fetch_eq_ok_iff.mp fetched
    cases built
    exact ⟨rfl, served, decoded, assembled⟩
  · rintro ⟨numbered, served, decoded, assembled⟩
    refine Outcome.bind_eq_ok_iff.mpr ⟨_, Source.fetch_eq_ok_iff.mpr ⟨served, decoded⟩, ?_⟩
    refine Outcome.bind_eq_ok_iff.mpr ⟨_, assembled, ?_⟩
    rw [← numbered]
    rfl

theorem attempt_eq_error_iff {failure : Failure} :
    service.attempt = .error failure ↔ service.Fails failure := by
  constructor
  · intro failed
    rcases Outcome.bind_eq_error_iff.mp failed with unfetched | ⟨document, fetched, failed⟩
    · rcases Source.fetch_eq_error_iff.mp unfetched with withheld | ⟨raw, served, malformed⟩
      · exact .fetch withheld
      · exact .decode raw served malformed
    · obtain ⟨served, decoded⟩ := Source.fetch_eq_ok_iff.mp fetched
      rcases Outcome.bind_eq_error_iff.mp failed with refused | ⟨_, _, failed⟩
      · exact .assembly document served decoded refused
      · cases failed
  · intro fails
    refine Outcome.bind_eq_error_iff.mpr ?_
    cases fails with
    | fetch withheld => exact Or.inl (Source.fetch_eq_error_iff.mpr (Or.inl withheld))
    | decode raw served malformed =>
        exact Or.inl (Source.fetch_eq_error_iff.mpr (Or.inr ⟨raw, served, malformed⟩))
    | assembly document served decoded refused =>
        refine Or.inr ⟨document, Source.fetch_eq_ok_iff.mpr ⟨served, decoded⟩, ?_⟩
        exact Outcome.bind_eq_error_iff.mpr (Or.inl refused)

end Service

end SchemaInference
