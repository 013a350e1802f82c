/-
This file describes which calls the builder makes inside a call.
-/

import SchemaInference.Proofs.Inference.Sampled
import Mathlib.Data.Finset.Card
import Mathlib.Logic.Relation

namespace SchemaInference

/-- A call has the levels that are left, a key with its sample and the names of the types that are
being built around it. -/
structure Builder.Call where
  levels : Nat
  key : String
  sample : Json
  pending : List String

namespace Builder

/-- There are at most as many different types as keys that they are named after. -/
theorem length_names_le {namer : Namer} {keys : Finset String} {names : List String}
    (distinct : names.Nodup) (named : ∀ name ∈ names, name ∈ keys.image namer) :
    names.length ≤ keys.card := by
  rw [← List.toFinset_card_of_nodup distinct]
  have included : names.toFinset ⊆ keys.image namer := fun name inside =>
    named name (List.mem_toFinset.mp inside)
  exact (Finset.card_le_card included).trans Finset.card_image_le

/-- The field that a call gives. -/
def callField (builder : Builder) (call : Call) : Field :=
  builder.sampledField call.levels call.key call.sample

/-- A call on an object opens the type of its key unless the type is being built around it. -/
inductive Opens (builder : Builder) : Call → ObjectType → Prop where
  | intro {levels : Nat} {key : String} {members : List (String × Json)} {pending : List String}
      (fresh : builder.namer key ∉ pending) :
      Opens builder ⟨levels + 1, key, .object members, pending⟩
        (builder.sampledType levels key members)

/-- One call makes another for each member of the type that it opens and stores, and one for the
items of an array. -/
inductive Nested (builder : Builder) (types : Dict ObjectType) : Call → Call → Prop where
  | member {levels : Nat} {key name : String} {members : List (String × Json)}
      {pending : List String} (fresh : builder.namer key ∉ pending)
      (stored : types.get? (builder.namer key) = some (builder.sampledType levels key members))
      (inside : name ∈ builder.memberNames key members) :
      Nested builder types ⟨levels + 1, key, .object members, pending⟩
        ⟨levels, name, builder.memberSample key members name, builder.namer key :: pending⟩
  | item {levels : Nat} {key : String} {first : Json} {rest : List Json} {pending : List String} :
      Nested builder types ⟨levels + 1, key, .array (first :: rest), pending⟩
        ⟨levels, key, itemSample first rest, pending⟩

/-- A chain of nested calls. -/
abbrev Leads (builder : Builder) (types : Dict ObjectType) : Call → Call → Prop :=
  Relation.ReflTransGen (builder.Nested types)

/-- A call makes a type when it leads to the call that opens the type. -/
def Makes (builder : Builder) (types : Dict ObjectType) (call : Call) (object : ObjectType) :
    Prop :=
  ∃ opener, builder.Leads types call opener ∧ builder.Opens opener object

theorem Nested.mono {builder : Builder} {before after : Dict ObjectType} {outer inner : Call}
    (kept : ∀ {name object}, before.get? name = some object → after.get? name = some object)
    (nested : builder.Nested before outer inner) : builder.Nested after outer inner := by
  cases nested with
  | member fresh stored inside => exact .member fresh (kept stored) inside
  | item => exact .item

theorem Makes.mono {builder : Builder} {before after : Dict ObjectType} {call : Call}
    {object : ObjectType}
    (kept : ∀ {name object}, before.get? name = some object → after.get? name = some object)
    (makes : builder.Makes before call object) : builder.Makes after call object := by
  obtain ⟨opener, leads, opens⟩ := makes
  exact ⟨opener, leads.lift id fun _ _ nested => nested.mono kept, opens⟩

theorem Makes.head {builder : Builder} {types : Dict ObjectType} {outer inner : Call}
    {object : ObjectType} (nested : builder.Nested types outer inner)
    (makes : builder.Makes types inner object) : builder.Makes types outer object := by
  obtain ⟨opener, leads, opens⟩ := makes
  exact ⟨opener, .head nested leads, opens⟩

/-- What one nested call keeps holds at every call of a chain. -/
theorem Leads.invariant {builder : Builder} {types : Dict ObjectType} {holds : Call → Prop}
    (step : ∀ {outer inner}, builder.Nested types outer inner → holds outer → holds inner)
    {first last : Call} (leads : builder.Leads types first last) (start : holds first) :
    holds last := by
  induction leads with
  | refl => exact start
  | tail _ nested inductionHypothesis => exact step nested inductionHypothesis

end Builder

end SchemaInference
