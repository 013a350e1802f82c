/-
This file cuts texts at a separator and joins the parts again.
-/

namespace SchemaInference.Text

/-- This function cuts a text at every separator. -/
def cutAt (separator : Char) : List Char → List (List Char)
  | [] => [[]]
  | character :: rest =>
      if character = separator then [] :: cutAt separator rest
      else
        match cutAt separator rest with
        | [] => [[character]]
        | first :: others => (character :: first) :: others

theorem cutAt_ne_nil (separator : Char) (text : List Char) : cutAt separator text ≠ [] := by
  cases text with
  | nil => simp [cutAt]
  | cons character rest =>
      rw [cutAt]
      split
      · simp
      · split <;> simp

theorem intercalate_cutAt (separator : Char) (text : List Char) :
    [separator].intercalate (cutAt separator text) = text := by
  induction text with
  | nil => rfl
  | cons character rest inductionHypothesis =>
      rw [cutAt]
      cases cut : cutAt separator rest with
      | nil => exact absurd cut (cutAt_ne_nil separator rest)
      | cons first others =>
          rw [cut] at inductionHypothesis
          split
          · next same =>
              rw [same]
              simpa [List.intercalate] using inductionHypothesis
          · rw [← inductionHypothesis]
            cases others <;> simp [List.intercalate]

end SchemaInference.Text
