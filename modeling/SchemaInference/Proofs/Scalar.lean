/-
This file says what the form of a value in a scalar kind is.
-/

import SchemaInference.Proofs.Json.Steady

namespace SchemaInference.ScalarKind

theorem of_eq {value : Json} {kind : ScalarKind} (scalar : value.scalarKind? = some kind) :
    of value = kind := by
  cases value <;> simp_all [Json.scalarKind?, of]

/-- A scalar is its own form in its kind. -/
theorem coerce?_eq_self {value : Json} {kind : ScalarKind}
    (scalar : value.scalarKind? = some kind) : kind.coerce? value = some value := by
  cases value with
  | string text | number value | boolean value =>
      obtain rfl := Option.some.inj scalar
      rfl
  | _ => cases scalar

theorem scalarKind?_of_stringOf? {value form : Json} (formed : stringOf? value = some form) :
    form.scalarKind? = some .string := by
  cases value with
  | null => cases formed
  | _ =>
      obtain rfl := Option.some.inj formed
      rfl

theorem scalarKind?_of_floatOf? {value form : Json} (formed : floatOf? value = some form) :
    form.scalarKind? = some .float := by
  cases value with
  | number | boolean =>
      obtain rfl := Option.some.inj formed
      rfl
  | string text =>
      obtain ⟨double, _, rfl⟩ := Option.map_eq_some_iff.mp formed
      rfl
  | _ => cases formed

theorem scalarKind?_of_booleanOf? {value form : Json} (formed : booleanOf? value = some form) :
    form.scalarKind? = some .boolean := by
  cases value with
  | number | boolean =>
      obtain rfl := Option.some.inj formed
      rfl
  | string text =>
      rw [booleanOf?] at formed
      split at formed
      · obtain rfl := Option.some.inj formed
        rfl
      · split at formed
        · obtain rfl := Option.some.inj formed
          rfl
        · cases formed
  | _ => cases formed

/-- The form of a value in a kind is a scalar of this kind. -/
theorem scalarKind?_of_coerce? {kind : ScalarKind} {value form : Json}
    (formed : kind.coerce? value = some form) : form.scalarKind? = some kind := by
  cases kind with
  | string => exact scalarKind?_of_stringOf? formed
  | float => exact scalarKind?_of_floatOf? formed
  | boolean => exact scalarKind?_of_booleanOf? formed

end SchemaInference.ScalarKind
