/-
This file compares the strategy that a field finds for a path with the strategy at the end of the
walk.
-/

import SchemaInference.Resolution
import SchemaInference.Proofs.Inference.Assembled
import SchemaInference.Proofs.Schema.Walk
import Mathlib.Data.List.TakeWhile

namespace SchemaInference

/-- The number of list levels around the innermost type. -/
def TypeRef.listLevels : TypeRef → Nat
  | list element => element.listLevels + 1
  | _ => 0

/-- The last segments of the path step from the located field to the located type. -/
def Located.itemSegments (located : Located) (path : Path) : Path :=
  path.drop (path.length - (located.field.type.listLevels - located.type.listLevels))

/-- The field finds its own segment when the located type is a list or no step into a list prints
as the name of the field. -/
def Located.HookAgrees (located : Located) (path : Path) : Prop :=
  (∃ element, located.type = .list element) ∨
    ∀ segment ∈ located.itemSegments path, segment.name ≠ located.field.name

theorem TypeRef.listLevels_of_unwrap? {levels : Nat} {type inner : TypeRef}
    (unwrapped : type.unwrap? levels = some inner) :
    type.listLevels = levels + inner.listLevels := by
  induction levels generalizing type with
  | zero =>
      obtain rfl := Option.some.inj unwrapped
      exact (Nat.zero_add _).symm
  | succ levels inductionHypothesis =>
      cases type with
      | list element =>
          have tail := inductionHypothesis unwrapped
          simp only [listLevels]
          omega
      | _ => cases unwrapped

/-- Before the last of the given levels there is a list. -/
theorem TypeRef.exists_list_of_unwrap? {levels more : Nat} {type inner : TypeRef}
    (unwrapped : type.unwrap? levels = some inner) (fewer : more < levels) :
    ∃ element, type.unwrap? more = some (.list element) := by
  induction more generalizing levels type with
  | zero =>
      obtain ⟨rest, rfl⟩ := Nat.exists_eq_succ_of_ne_zero (Nat.ne_of_gt fewer)
      cases type with
      | list element => exact ⟨element, rfl⟩
      | _ => cases unwrapped
  | succ more inductionHypothesis =>
      obtain ⟨rest, rfl⟩ := Nat.exists_eq_succ_of_ne_zero (Nat.ne_of_gt (Nat.zero_lt_of_lt fewer))
      cases type with
      | list element => exact inductionHypothesis unwrapped (Nat.lt_of_succ_lt_succ fewer)
      | _ => cases unwrapped

/-- The field counts its trailing segments from the last one that prints as its name. -/
theorem Field.trailing_append {field : Field} {before steps : Path} {own : Segment}
    (named : own.name = field.name) :
    field.trailing (before ++ own :: steps) =
      (steps.reverse.takeWhile fun segment => segment.name != field.name).length := by
  have found : (before ++ own :: steps).any (fun segment => segment.name == field.name) = true := by
    simp [named]
  rw [trailing, if_pos found, List.reverse_append, List.reverse_cons, List.append_assoc,
    List.takeWhile_append]
  split
  · next whole => simpa [named] using whole.symm
  · rfl

theorem Field.trailing_eq_length_iff {field : Field} {steps : Path} {own : Segment}
    (named : own.name = field.name) (before : Path) :
    field.trailing (before ++ own :: steps) = steps.length ↔
      ∀ segment ∈ steps, segment.name ≠ field.name := by
  have whole : (∀ segment ∈ steps, segment.name ≠ field.name) ↔
      steps.reverse.takeWhile (fun segment => segment.name != field.name) = steps.reverse := by
    rw [List.takeWhile_eq_self_iff]
    simp
  have reversed : steps.length = steps.reverse.length := List.length_reverse.symm
  rw [trailing_append named, whole, reversed]
  constructor
  · exact (List.takeWhile_prefix _).eq_of_length
  · exact congrArg List.length

namespace Located

variable {schema : Schema} {located : Located} {before steps : Path} {own : Segment}

theorem Trace.itemSegments_eq (trace : located.Trace schema before own steps) :
    located.itemSegments (before ++ own :: steps) = steps := by
  have levels := TypeRef.listLevels_of_unwrap? trace.unwrapped
  have start : (before ++ own :: steps).length -
      (located.field.type.listLevels - located.type.listLevels) = (before ++ [own]).length := by
    simp only [List.length_append, List.length_cons, List.length_nil]
    omega
  have split : before ++ own :: steps = (before ++ [own]) ++ steps := List.append_cons before own steps
  rw [itemSegments, start, split]
  exact List.drop_left

/-- A field that finds its own segment gives the strategy of the walk. A later segment with its
name leaves a list. -/
theorem Trace.strategyAt_eq (consistent : schema.Consistent)
    (trace : located.Trace schema before own steps) :
    located.field.strategyAt (before ++ own :: steps) =
      if ∀ segment ∈ steps, segment.name ≠ located.field.name then located.strategy
      else .array := by
  have fewer : located.field.trailing (before ++ own :: steps) ≤ steps.length := by
    have reversed : steps.length = steps.reverse.length := List.length_reverse.symm
    rw [Field.trailing_append trace.named, reversed]
    exact (List.takeWhile_prefix _).length_le
  split
  · next distinct =>
      have all := (Field.trailing_eq_length_iff trace.named before).mpr distinct
      unfold Field.strategyAt Located.strategy
      rw [all, trace.indexed]
      cases steps with
      | nil => rfl
      | cons first rest =>
          have unwrapped := trace.unwrapped
          rw [List.length_cons] at unwrapped ⊢
          simp [unwrapped]
  · next repeated =>
      have less : located.field.trailing (before ++ own :: steps) < steps.length :=
        Nat.lt_of_le_of_ne fewer fun all =>
          repeated ((Field.trailing_eq_length_iff trace.named before).mp all)
      obtain ⟨element, isList⟩ := TypeRef.exists_list_of_unwrap? trace.unwrapped less
      unfold Field.strategyAt
      split
      · next zero =>
          rw [zero] at isList
          have type : located.field.type = .list element := Option.some.inj isList
          rcases trace.strategy_field consistent with same | ⟨scalar, _⟩
          · rw [same, type]
            rfl
          · rw [type] at scalar
            cases scalar
      · next levels positive =>
          rw [positive] at isList
          simp [isList, Strategy.ofType]

/-- The hook and the walk agree exactly under the stated condition. -/
theorem Trace.strategyAt_eq_strategy_iff (consistent : schema.Consistent)
    (trace : located.Trace schema before own steps) :
    located.field.strategyAt (before ++ own :: steps) = located.strategy ↔
      located.HookAgrees (before ++ own :: steps) := by
  rw [HookAgrees, trace.itemSegments_eq, ← trace.strategy_eq_array_iff consistent,
    trace.strategyAt_eq consistent]
  split
  · next distinct => exact iff_of_true rfl (Or.inr distinct)
  · next repeated => exact eq_comm.trans (or_iff_left repeated).symm

end Located

/-- The digits stand before the letters and the underscore. -/
theorem not_isNameStart_of_isDigit {character : Char} (digit : Text.isDigit character = true) :
    isNameStart character = false := by
  simp only [Text.isDigit, Bool.and_eq_true, decide_eq_true_eq, Char.le_def] at digit
  have last : character.val.toNat ≤ 57 := UInt32.le_iff_toNat_le.mp digit.2
  have different : (character == '_') = false := by
    rw [beq_eq_false_iff_ne]
    rintro rfl
    exact absurd last (by decide)
  have upper : character.isUpper = false := by
    show decide ('A'.val ≤ character.val ∧ character.val ≤ 'Z'.val) = false
    rw [decide_eq_false_iff_not]
    rintro ⟨first, _⟩
    have bound : 65 ≤ character.val.toNat := UInt32.le_iff_toNat_le.mp first
    omega
  have lower : character.isLower = false := by
    show (decide ('a'.val ≤ character.val) && decide (character.val ≤ 'z'.val)) = false
    rw [Bool.and_eq_false_iff, decide_eq_false_iff_not]
    refine Or.inl fun first => ?_
    have bound : 97 ≤ character.val.toNat := UInt32.le_iff_toNat_le.mp first
    omega
  show (character == '_' || (character.isUpper || character.isLower)) = false
  rw [different, upper, lower]
  rfl

/-- The name that an index prints as is no identifier. -/
theorem not_isIdentifier_index (position : UInt64) :
    isIdentifier (Segment.index position).name = false := by
  have all := Text.all_isDigit_digits position.toNat
  simp only [isIdentifier, Segment.name, Segment.text, String.toList_ofList]
  split
  · rfl
  · next first rest shape =>
      rw [shape, List.all_cons, Bool.and_eq_true] at all
      rw [not_isNameStart_of_isDigit all.1, Bool.false_and]

/-- Fields with identifiers for names find their own segments. -/
theorem Located.Trace.hookAgrees_of_named {schema : Schema} {options : Options} {located : Located}
    {before steps : Path} {own : Segment} (trace : located.Trace schema before own steps)
    (checked : schema.Checked options) (strict : options.strictNames = true) :
    located.HookAgrees (before ++ own :: steps) := by
  obtain ⟨object, inside, found⟩ := trace.stored
  have member := Dict.mem_values_iff.mpr ⟨_, found⟩
  have identifier := checked.fieldsNamed object inside _ member strict
  refine Or.inr fun segment step same => ?_
  rw [trace.itemSegments_eq] at step
  obtain ⟨position, rfl⟩ := trace.indices segment step
  rw [← same, not_isIdentifier_index] at identifier
  cases identifier

/-- Only the strategy for lists resolves to a list. -/
theorem Strategy.apply_array_ne {strategy : Strategy} (other : strategy ≠ .array)
    (first second : Option Json) : strategy.apply first ≠ Strategy.array.apply second := by
  have isList : ∃ items, Strategy.array.apply second = .list items := by
    simp only [apply]
    split <;> simp
  obtain ⟨items, same⟩ := isList
  rw [same]
  cases strategy with
  | scalar kind =>
      simp only [apply]
      split <;> simp
  | object =>
      simp only [apply]
      split <;> simp
  | array => exact absurd rfl other
  | null => simp [apply]

namespace Assembler

/-- At every located path the hook of the field has the strategy of the walk exactly when the
located type is a list or no step into a list prints as the name of the field. Then it resolves
every document as the walk does, and otherwise none. Strict names always agree. -/
theorem hook_agrees_iff (assembler : Assembler) (document : Json) (schema : Schema) (path : Path)
    (located : Located) (assembled : assembler.assemble document = .ok schema)
    (found : schema.locate path = .ok located) :
    (located.field.strategyAt path = located.strategy ↔ located.HookAgrees path) ∧
      (∀ other, located.field.resolve other path = located.strategy.resolve other path ↔
        located.HookAgrees path) ∧
      (assembler.options.strictNames = true → located.HookAgrees path) := by
  obtain ⟨rfl, checked⟩ := assemble_eq_ok_iff.mp assembled
  have consistent : (assembler.build document).Consistent := build_consistent
  obtain ⟨before, own, steps, rfl, trace⟩ :=
    Schema.exists_trace consistent (Schema.locate_eq_ok_iff.mp found)
  have agrees := trace.strategyAt_eq_strategy_iff consistent
  refine ⟨agrees, fun other => ⟨fun same => ?_, fun condition => ?_⟩,
    trace.hookAgrees_of_named checked⟩
  · by_contra disagrees
    have different := fun equal => disagrees (agrees.mp equal)
    have hook := trace.strategyAt_eq consistent
    have repeated : ¬ ∀ segment ∈ steps, segment.name ≠ located.field.name := fun distinct =>
      different (hook.trans (if_pos distinct))
    rw [if_neg repeated] at hook
    rw [Field.resolve, hook] at same
    exact Strategy.apply_array_ne (fun array => different (hook.trans array.symm)) _ _ same.symm
  · rw [Field.resolve, agrees.mpr condition]

/-- The condition holds at an index that prints otherwise than the numeric name. -/
theorem hook_agrees_iff_second_item :
    ∃ schema located,
      (ofOptions { Options.standard with strictNames := false }).assemble
          (.object [("0", .array [.string "a", .string "b"])]) = .ok schema ∧
        schema.locate [.field "0", .index 1] = .ok located ∧ located.indexed = true ∧
        located.field.strategyAt [.field "0", .index 1] = located.strategy := by
  refine ⟨_, _, rfl, rfl, rfl, ?_⟩
  apply (hook_agrees_iff (ofOptions { Options.standard with strictNames := false })
    (.object [("0", .array [.string "a", .string "b"])]) _ [.field "0", .index 1] _ rfl rfl).1.mpr
  refine Or.inr fun segment inside => ?_
  obtain rfl : segment = .index 1 := List.mem_singleton.mp inside
  have printed : (Segment.index 1).name = "1" := Segment.name_index_of_lt (by decide)
  rw [printed]
  decide

/-- The index zero prints as the name of the field, so the field takes it for its own segment and
resolves the item as a list. -/
theorem hook_disagrees_at_numeric_name :
    ∃ schema located,
      (ofOptions { Options.standard with strictNames := false }).assemble
          (.object [("0", .array [.string "a"])]) = .ok schema ∧
        schema.locate [.field "0", .index 0] = .ok located ∧
        located.strategy = .scalar .string ∧
        located.field.strategyAt [.field "0", .index 0] = .array ∧
        located.strategy.resolve (.object [("0", .array [.string "a"])])
          [.field "0", .index 0] = .scalar (.string "a") ∧
        located.field.resolve (.object [("0", .array [.string "a"])])
          [.field "0", .index 0] = .list [] := by
  have printed : (Segment.index 0).name = "0" := Segment.name_index_of_lt (by decide)
  have hook : (Field.list "0" (.scalar .string)).strategyAt [.field "0", .index 0] = .array := by
    simp [Field.strategyAt, Field.trailing, printed, Field.list]
  refine ⟨_, _, rfl, rfl, rfl, hook, rfl, ?_⟩
  show ((Field.list "0" (.scalar .string)).strategyAt _).resolve _ _ = _
  rw [hook]
  rfl

end Assembler

end SchemaInference
