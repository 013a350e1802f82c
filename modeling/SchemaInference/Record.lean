/-
This file finds the parts of a record whose part names are known.
-/

namespace SchemaInference.Record

variable {α : Type}

/-- A name may be missing but not repeated. Other keys do not matter, but every key is a text. -/
def byName? (names : List String) (members : List (Option String × α)) :
    Option (List (Option α)) :=
  if members.all fun member => member.1.isSome then
    names.mapM fun name =>
      match members.filter fun member => member.1 == some name with
      | [] => some none
      | [(_, part)] => some (some part)
      | _ => none
  else none

/-- The first parts are given in order, and the last ones may be missing. -/
def byPosition? (names : List String) (parts : List α) : Option (List (Option α)) :=
  if parts.length ≤ names.length then
    some (parts.map some ++ List.replicate (names.length - parts.length) none)
  else none

end SchemaInference.Record
