/-
This file shows that a walk goes on from the type that it has reached, whatever path has led there.
-/

import SchemaInference.Proofs.Schema.Walk

namespace SchemaInference

namespace Schema

/-- The path leads to a list, and the segment after it is an index. -/
def StepsIntoList (schema : Schema) (path : Path) (segment : Segment) : Prop :=
  ∃ place element position, schema.locate path = .ok place ∧ place.type = .list element ∧
    segment = .index position

/-- Some segment of the rest of the path does not step into a list, so it selects a field. -/
def SelectsField (schema : Schema) (path rest : Path) : Prop :=
  ∃ before segment after, rest = before ++ segment :: after ∧
    ¬ schema.StepsIntoList (path ++ before) segment

/-- Two walks go on alike when both fail, each with its own path in the message, or both end at the
same type. After a further segment they have the same mark, and after a segment that selects a field
they have the same field. -/
inductive Alike (schema : Schema) (first second rest : Path) : Prop where
  | fails
      (failed :
        schema.locate (first ++ rest) = .error (.unknownField (Path.name (first ++ rest))))
      (twinFailed :
        schema.locate (second ++ rest) = .error (.unknownField (Path.name (second ++ rest))))
  | leads (place twin : Located) (found : schema.locate (first ++ rest) = .ok place)
      (twinFound : schema.locate (second ++ rest) = .ok twin) (type : place.type = twin.type)
      (indexed : rest ≠ [] → place.indexed = twin.indexed)
      (field : schema.SelectsField first rest → place.field = twin.field)

variable {schema : Schema} {path : Path} {place twin : Located} {segment : Segment}

/-! One step -/

theorem advance?_index_of_list {element : TypeRef} (list : place.type = .list element)
    (position : UInt64) :
    schema.advance? (some place) (.index position) = some ⟨place.field, element, true⟩ := by
  obtain ⟨field, type, indexed⟩ := place
  subst list
  rfl

theorem advance?_eq_selectField?
    (plain : ∀ element position, place.type = .list element → segment ≠ .index position) :
    schema.advance? (some place) segment = schema.selectField? (some place) segment := by
  unfold advance?
  split
  · next field element indexed position same =>
      obtain rfl := Option.some.inj same
      exact absurd rfl (plain element position rfl)
  · rfl

/-- The type of a place decides which field a segment selects. -/
theorem advance?_congr (type : place.type = twin.type)
    (plain : ∀ element position, place.type = .list element → segment ≠ .index position) :
    schema.advance? (some place) segment = schema.advance? (some twin) segment := by
  rw [advance?_eq_selectField? plain, advance?_eq_selectField? (type ▸ plain), selectField?,
    selectField?, container?, container?, type]

/-! Parts of a path -/

theorem locate_cases (schema : Schema) (path : Path) :
    (∃ place, schema.locate path = .ok place) ∨
      schema.locate path = .error (.unknownField (Path.name path)) := by
  cases walked : schema.locate path with
  | ok place => exact Or.inl ⟨place, rfl⟩
  | error failure => exact Or.inr (congrArg Except.error (locate_eq_error_iff.mp walked).2)

theorem walk?_append (schema : Schema) (path rest : Path) :
    schema.walk? (path ++ rest) = (schema.walk? path).bind fun current =>
      rest.foldlM (fun current segment => (schema.advance? current segment).map some) current := by
  rw [walk?, walk?, List.foldlM_append]
  rfl

/-- A walk that leads to a place is at a place after each segment. -/
theorem exists_locate_of_append {rest : Path} (nonempty : path ≠ [])
    (found : schema.locate (path ++ rest) = .ok place) :
    ∃ earlier, schema.locate path = .ok earlier := by
  rw [locate_eq_ok_iff, walk?_append] at found
  obtain ⟨current, walked, _⟩ := Option.bind_eq_some_iff.mp found
  cases current with
  | none => exact absurd (eq_nil_of_walk? walked) nonempty
  | some earlier => exact ⟨earlier, locate_eq_ok_iff.mpr walked⟩

/-- A walk that has reached a place goes on with a step from there. -/
theorem locate_concat_iff (found : schema.locate path = .ok place) (segment : Segment)
    (reached : Located) :
    schema.locate (path ++ [segment]) = .ok reached ↔
      schema.advance? (some place) segment = some reached := by
  rw [locate_eq_ok_iff, walk?_concat, locate_eq_ok_iff.mp found, Option.bind_some]
  simp

/-- The number in an index that steps into a list does not matter. -/
theorem walk?_eq_of_stepsIntoList {before : Path} {position : UInt64}
    (steps : schema.StepsIntoList before (.index position)) (other : UInt64) (after : Path) :
    schema.walk? (before ++ .index position :: after) =
      schema.walk? (before ++ .index other :: after) := by
  obtain ⟨place, element, _, found, list, _⟩ := steps
  have step : schema.walk? (before ++ [.index position]) =
      schema.walk? (before ++ [.index other]) := by
    rw [walk?_concat, walk?_concat, locate_eq_ok_iff.mp found, Option.bind_some, Option.bind_some,
      advance?_index_of_list list, advance?_index_of_list list]
  rw [List.append_cons, walk?_append, step, ← walk?_append, ← List.append_cons]

/-! Walks that go on alike -/

/-- A last segment that steps into a list does not select the field. -/
theorem SelectsField.of_concat {rest : Path}
    (selects : schema.SelectsField path (rest ++ [segment]))
    (steps : schema.StepsIntoList (path ++ rest) segment) : schema.SelectsField path rest := by
  obtain ⟨before, selector, after, split, plain⟩ := selects
  rcases List.eq_nil_or_concat after with rfl | ⟨others, last, rfl⟩
  · obtain ⟨rfl, same⟩ := List.append_inj' split rfl
    obtain rfl := List.singleton_inj.mp same
    exact absurd steps plain
  · rw [List.concat_eq_append, ← List.cons_append, ← List.append_assoc] at split
    exact ⟨before, selector, others, (List.append_inj' split rfl).1, plain⟩

theorem locate_concat_of_failed {rest : Path} (nonempty : path ≠ [])
    (failed : schema.locate (path ++ rest) = .error (.unknownField (Path.name (path ++ rest))))
    (segment : Segment) :
    schema.locate (path ++ (rest ++ [segment])) =
      .error (.unknownField (Path.name (path ++ (rest ++ [segment])))) := by
  rcases schema.locate_cases (path ++ (rest ++ [segment])) with ⟨place, found⟩ | same
  · rw [← List.append_assoc] at found
    obtain ⟨earlier, reached⟩ :=
      exists_locate_of_append (List.append_ne_nil_of_left_ne_nil nonempty rest) found
    rw [failed] at reached
    cases reached
  · exact same

/-- Walks that end at the same places go on alike. -/
theorem Alike.of_same_places {first second rest : Path}
    (same : ∀ place, schema.locate (first ++ rest) = .ok place ↔
      schema.locate (second ++ rest) = .ok place) : schema.Alike first second rest := by
  rcases schema.locate_cases (first ++ rest) with ⟨place, found⟩ | failed
  · exact .leads place place found ((same place).mp found) rfl (fun _ => rfl) (fun _ => rfl)
  · rcases schema.locate_cases (second ++ rest) with ⟨place, found⟩ | twinFailed
    · rw [(same place).mpr found] at failed
      cases failed
    · exact .fails failed twinFailed

/-- One more segment keeps walks alike. Both walks step into lists and keep their fields, or both
select the same field. -/
theorem Alike.concat {first second rest : Path} (alike : schema.Alike first second rest)
    (nonempty : first ≠ []) (twinNonempty : second ≠ []) (segment : Segment) :
    schema.Alike first second (rest ++ [segment]) := by
  cases alike with
  | fails failed twinFailed =>
      exact .fails (locate_concat_of_failed nonempty failed segment)
        (locate_concat_of_failed twinNonempty twinFailed segment)
  | leads place twin found twinFound type indexed field =>
      have onward := locate_concat_iff found segment
      have twinOnward := locate_concat_iff twinFound segment
      simp only [List.append_assoc] at onward twinOnward
      by_cases steps : schema.StepsIntoList (first ++ rest) segment
      -- A step into a list sets the mark of both walks, whatever it was before.
      · obtain ⟨_, element, position, again, list, rfl⟩ := id steps
        obtain rfl := Except.ok.inj (found.symm.trans again)
        exact .leads ⟨place.field, element, true⟩ ⟨twin.field, element, true⟩
          ((onward _).mpr (advance?_index_of_list list position))
          ((twinOnward _).mpr (advance?_index_of_list (type.symm.trans list) position))
          rfl (fun _ => rfl) (fun selects => field (selects.of_concat steps))
      · have same : schema.advance? (some place) segment = schema.advance? (some twin) segment :=
          advance?_congr type fun element position list index =>
            steps ⟨place, element, position, found, list, index⟩
        refine .of_same_places fun reached => ?_
        rw [onward, twinOnward, same]

theorem ne_nil_of_locate (found : schema.locate path = .ok place) : path ≠ [] := by
  rintro rfl
  cases found

/-- Walks that have reached the same type go on alike. The induction is on the rest of the path from
its end. -/
theorem alike_of_type_eq {first second : Path} (found : schema.locate first = .ok place)
    (twinFound : schema.locate second = .ok twin) (type : place.type = twin.type) (rest : Path) :
    schema.Alike first second rest := by
  induction rest using List.reverseRecOn with
  | nil =>
      refine .leads place twin ?_ ?_ type (absurd rfl) ?_
      · rwa [List.append_nil]
      · rwa [List.append_nil]
      · rintro ⟨before, segment, after, split, _⟩
        exact absurd split.symm (List.append_ne_nil_of_right_ne_nil before (List.cons_ne_nil _ _))
  | append_singleton rest segment inductionHypothesis =>
      exact inductionHypothesis.concat (ne_nil_of_locate found) (ne_nil_of_locate twinFound) segment

/-- Where a walk goes on to depends only on the type that it has reached. When a path leads to a
place, so does every beginning of it. The number in an index that steps into a list does not
matter. -/
theorem locate_compositional (schema : Schema) :
    (∀ first second place twin, schema.locate first = .ok place →
        schema.locate second = .ok twin → place.type = twin.type →
          ∀ rest, schema.Alike first second rest) ∧
      (∀ path rest place, path ≠ [] → schema.locate (path ++ rest) = .ok place →
        ∃ earlier, schema.locate path = .ok earlier) ∧
      ∀ before position other after, schema.StepsIntoList before (.index position) →
        ∀ place, schema.locate (before ++ .index position :: after) = .ok place ↔
          schema.locate (before ++ .index other :: after) = .ok place := by
  refine ⟨fun first second place twin found twinFound type => alike_of_type_eq found twinFound type,
    fun path rest place => exists_locate_of_append, ?_⟩
  intro before position other after steps place
  rw [locate_eq_ok_iff, locate_eq_ok_iff, walk?_eq_of_stepsIntoList steps other]

/-- A node leads to a node and back to the root, and the root has lists of lists of nodes. -/
def linked : Schema where
  root := ((ObjectType.empty "RootQuery").addField (.object "head" "Node")).addField
    (.list "rows" (.list (.object "Node")))
  types := Dict.empty.insert "Node" (((ObjectType.empty "Node").addField
    (.object "next" "Node")).addField (.object "home" "RootQuery"))

/-- Both paths lead to a node, one of them through lists, and go on to the rows of the root. -/
theorem locate_compositional_linked :
    let first : Path := [.field "head", .field "next"]
    let second : Path := [.field "rows", .index 4, .index 0]
    let rest : Path := [.field "home", .field "rows", .index 7]
    let node : Located := ⟨.list "rows" (.list (.object "Node")), .object "Node", true⟩
    linked.locate first = .ok (.ofField (.object "next" "Node")) ∧
      linked.locate second = .ok node ∧
      (∃ twin, linked.locate (second ++ rest) = .ok twin ∧ twin.field = node.field ∧
        twin.type = .list (.object "Node") ∧ twin.indexed = true) ∧
      (∃ earlier, linked.locate [.field "rows", .index 4] = .ok earlier) ∧
      linked.locate [.field "rows", .index 9, .index 0] = .ok node := by
  intro first second rest node
  obtain ⟨alike, parts, numbers⟩ := locate_compositional linked
  have found : linked.locate first = .ok (.ofField (.object "next" "Node")) := rfl
  have twinFound : linked.locate second = .ok node := rfl
  have onward : linked.locate (first ++ rest) =
      .ok ⟨node.field, .list (.object "Node"), true⟩ := rfl
  have selects : linked.SelectsField first rest :=
    ⟨[], .field "home", _, rfl, fun ⟨_, _, _, _, _, index⟩ => nomatch index⟩
  refine ⟨found, twinFound, ?_, parts _ [.index 0] _ (List.cons_ne_nil _ _) twinFound,
    (numbers [.field "rows"] 4 9 [.index 0] ⟨_, _, 4, rfl, rfl, rfl⟩ _).mp twinFound⟩
  cases alike first second _ _ found twinFound rfl rest with
  | fails failed _ =>
      rw [onward] at failed
      cases failed
  | leads place twin reached twinReached type indexed field =>
      obtain rfl := Except.ok.inj (onward.symm.trans reached)
      exact ⟨twin, twinReached, (field selects).symm, type.symm,
        (indexed (List.cons_ne_nil _ _)).symm⟩

end Schema

end SchemaInference
