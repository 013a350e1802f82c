/-
This file shows that every value that is read is canonical.
-/

import SchemaInference.Document

namespace SchemaInference

namespace Entries

variable {α : Type}

theorem mem_foldl_insert {sorted entries : List (String × α)} {entry : String × α}
    (inside : entry ∈ entries.foldl (fun sorted entry => insert entry.1 entry.2 sorted) sorted) :
    entry ∈ sorted ∨ entry ∈ entries := by
  induction entries generalizing sorted with
  | nil => exact Or.inl inside
  | cons first rest inductionHypothesis =>
      rcases inductionHypothesis inside with older | later
      · rcases mem_insert older with same | oldest
        · exact Or.inr (List.mem_cons.mpr (Or.inl same))
        · exact Or.inl oldest
      · exact Or.inr (List.mem_cons_of_mem _ later)

theorem mem_of_mem_ofList {entries : List (String × α)} {entry : String × α}
    (inside : entry ∈ ofList entries) : entry ∈ entries :=
  (mem_foldl_insert inside).resolve_left List.not_mem_nil

end Entries

namespace Json

theorem canonicalItems_iff {items : List Json} :
    CanonicalItems items ↔ ∀ item ∈ items, item.Canonical := by
  induction items with
  | nil => simp [CanonicalItems]
  | cons head rest inductionHypothesis =>
      rw [CanonicalItems, inductionHypothesis, List.forall_mem_cons]

theorem canonicalMembers_iff {members : List (String × Json)} :
    CanonicalMembers members ↔ ∀ member ∈ members, member.2.Canonical := by
  induction members with
  | nil => simp [CanonicalMembers]
  | cons head rest inductionHypothesis =>
      rw [CanonicalMembers, inductionHypothesis, List.forall_mem_cons]

namespace Tree

mutual

/-- The value of a tree is canonical, however the members of the tree are written. -/
theorem canonical_of_value? : (levels : Nat) → (tree : Tree) → {result : Json} →
    value? levels tree = some result → result.Canonical
  | _, null, _, found => by
      obtain rfl := Option.some.inj found
      trivial
  | _, boolean _, _, found => by
      obtain rfl := Option.some.inj found
      trivial
  | _, number _, _, found => by
      obtain ⟨_, _, rfl⟩ := Option.map_eq_some_iff.mp found
      trivial
  | _, string _, _, found => by
      obtain ⟨_, _, rfl⟩ := Option.map_eq_some_iff.mp found
      trivial
  | levels + 1, array items, _, found => by
      obtain ⟨_, inner, rfl⟩ := Option.map_eq_some_iff.mp found
      exact canonicalItems_of_itemValues? levels items inner
  | levels + 1, object members, _, found => by
      obtain ⟨values, inner, rfl⟩ := Option.map_eq_some_iff.mp found
      have each := canonicalMembers_of_memberValues? levels members inner
      refine ⟨Entries.ascending_ofList values, canonicalMembers_iff.mpr fun member inside => ?_⟩
      exact canonicalMembers_iff.mp each member (Entries.mem_of_mem_ofList inside)

theorem canonicalItems_of_itemValues? : (levels : Nat) → (items : List Tree) →
    {results : List Json} → itemValues? levels items = some results → CanonicalItems results
  | _, [], _, found => by
      obtain rfl := Option.some.inj found
      trivial
  | levels, item :: rest, _, found => by
      obtain ⟨_, first, found⟩ := Option.bind_eq_some_iff.mp found
      obtain ⟨_, later, found⟩ := Option.bind_eq_some_iff.mp found
      obtain rfl := Option.some.inj found
      exact ⟨canonical_of_value? levels item first, canonicalItems_of_itemValues? levels rest later⟩

theorem canonicalMembers_of_memberValues? : (levels : Nat) →
    (members : List (Option String × Tree)) → {results : List (String × Json)} →
    memberValues? levels members = some results → CanonicalMembers results
  | _, [], _, found => by
      obtain rfl := Option.some.inj found
      trivial
  | levels, (key, tree) :: rest, _, found => by
      obtain ⟨_, _, found⟩ := Option.bind_eq_some_iff.mp found
      obtain ⟨_, first, found⟩ := Option.bind_eq_some_iff.mp found
      obtain ⟨_, later, found⟩ := Option.bind_eq_some_iff.mp found
      obtain rfl := Option.some.inj found
      exact ⟨canonical_of_value? levels tree first,
        canonicalMembers_of_memberValues? levels rest later⟩

end

end Tree

end Json

/-- The value of every decoded document is canonical. -/
theorem Document.canonical_of_decode {raw : ByteArray} {document : Document}
    (decoded : Document.decode raw = .ok document) : document.value.Canonical := by
  unfold decode decodeValue? at decoded
  split at decoded
  · cases decoded
  · next value found =>
      obtain ⟨text, _, read⟩ := Option.bind_eq_some_iff.mp found
      obtain ⟨tree, _, read⟩ := Option.bind_eq_some_iff.mp read
      split at decoded
      · obtain rfl := Except.ok.inj decoded
        exact Json.Tree.canonical_of_value? _ tree read
      · cases decoded

end SchemaInference
