/-
This file describes what a strategy makes of the value that a path finds.
-/

import SchemaInference.Resolution

namespace SchemaInference

namespace Json

theorem at?_concat (document : Json) (path : Path) (segment : Segment) :
    document.at? (path ++ [segment]) = (document.at? path).bind (step? segment) := by
  rw [at?, at?, List.foldlM_append]
  simp only [List.foldlM_cons, List.foldlM_nil, bind_pure]
  rfl

/-- Every segment selects the member that it names. -/
theorem step?_object (segment : Segment) (members : List (String × Json)) :
    step? segment (object members) = members.lookup segment.name := by
  cases segment with
  | field name =>
      rw [Segment.name_field]
      rfl
  | index position => rfl

end Json

namespace Resolved

/-- Null and the empty list stand for a value that is absent. -/
def Missing (resolved : Resolved) : Prop :=
  resolved = .null ∨ resolved = .list []

/-- An object resolves to the empty list, or a list resolves to null. -/
def Hides : Resolved → Option Json → Prop
  | list [], some (.object _) => True
  | null, some (.array _) => True
  | _, _ => False

end Resolved

namespace Strategy

theorem apply_none_missing (strategy : Strategy) : (strategy.apply none).Missing := by
  cases strategy with
  | array => exact Or.inr rfl
  | _ => exact Or.inl rfl

end Strategy

end SchemaInference
