/-
This file says which members of a document have a field in the type of their key.
-/

import SchemaInference.Proofs.Inference.Assembled
import SchemaInference.Proofs.Inference.Exact
import SchemaInference.Proofs.Json.Drawn

namespace SchemaInference

open Json

/-- The type has a field for each of the members. -/
def ObjectType.Covers (object : ObjectType) (members : List (String × Json)) : Prop :=
  ∀ name ∈ members.map Prod.fst, (object.field? name).isSome

namespace Json

end Json

namespace Builder

variable {builder : Builder} {document : Json}

/-- A nested call of a call with a drawn sample has a drawn sample. -/
theorem drawn_of_nested (collected : builder.unions = .collect document)
    {types : Dict ObjectType} {outer inner : Call} (nested : builder.Nested types outer inner)
    (drawn : document.Drawn outer.key outer.sample) : document.Drawn inner.key inner.sample := by
  cases nested with
  | @member levels key name members pending fresh stored inside =>
      show document.Drawn name (builder.memberSample key members name)
      unfold memberSample
      split
      · next found => exact drawn.of_member (Entries.mem_of_lookup found)
      · split
        · next flagged =>
            rw [collected, Unions.isObject_collect_iff] at flagged
            obtain ⟨others, value, occurs, member, shape⟩ := flagged
            cases value with
            | object deeper => exact .emptyObject (mem_occurring_member occurs member)
            | _ => cases shape
        · exact .null
  | item => exact drawn.items

end Builder

namespace Assembler

open Builder

variable {assembler : Assembler} {document : Json}

theorem Built.drawn {key : String} {levels : Nat} {members : List (String × Json)}
    {pending : List String} (built : assembler.Built document key levels members pending) :
    document.Drawn key (.object members) := by
  have start : ∀ {call : Call}, assembler.rootCalls document call →
      document.Drawn call.key call.sample := by
    rintro call ⟨⟨name, sample⟩, inside, rfl⟩
    exact .value (mem_occurring_of_mem_rootMembers inside)
  exact built.holds (fun call => document.Drawn call.key call.sample) (drawn_of_nested rfl) start

end Assembler

end SchemaInference
