/-
This file shows that a value is read back from its tokens.
-/

import SchemaInference.Json.Tree
import SchemaInference.Proofs.Dict
import SchemaInference.Proofs.Json.Spelling

namespace SchemaInference

namespace Json

mutual

/-- The tree that a written value is read as. -/
def tree : Json → Tree
  | null => .null
  | boolean value => .boolean value
  | number value => .number (some value)
  | string text => .string (some text)
  | array items => .array (itemTrees items)
  | object members => .object (memberTrees members)

def itemTrees : List Json → List Tree
  | [] => []
  | item :: rest => tree item :: itemTrees rest

def memberTrees : List (String × Json) → List (Option String × Tree)
  | [] => []
  | (key, value) :: rest => (some key, tree value) :: memberTrees rest

end

theorem memberTrees_eq_map (members : List (String × Json)) :
    memberTrees members = members.map fun member => (some member.1, member.2.tree) := by
  induction members with
  | nil => rfl
  | cons member rest inductionHypothesis => rw [memberTrees, inductionHypothesis, List.map_cons]

/-! From tokens to the tree -/

/-- No value begins with a closing bracket, so the first item begins as any value does. -/
theorem foldlM_step_firstItem (value : Json) (opened : List Tree.Frame) (later : List Token) :
    (value.tokens ++ later).foldlM Tree.step (.firstItem opened) =
      (value.tokens ++ later).foldlM Tree.step (.value (.array [] :: opened)) := by
  fun_cases tokens value with
  | case1 | case2 => rfl
  | case3 value => cases value <;> rfl

mutual

/-- The tokens of a value complete its tree and leave the open brackets as they are. -/
theorem foldlM_step_tokens : (value : Json) → (opened : List Tree.Frame) → (later : List Token) →
    (value.tokens ++ later).foldlM Tree.step (.value opened) =
      later.foldlM Tree.step (.complete value.tree opened)
  | null, _, _ | boolean _, _, _ | number _, _, _ | string _, _, _ | array [], _, _
  | object [], _, _ => rfl
  | array (first :: rest), opened, later => by
      have head := foldlM_step_tokens first (.array [] :: opened) (itemTokens rest ++ later)
      have tail := foldlM_step_itemTokens rest opened [] first.tree later
      rw [tokens, List.append_assoc, List.cons_append]
      exact (foldlM_step_firstItem first opened _).trans (head.trans tail)
  | object ((key, first) :: rest), opened, later => by
      have head := foldlM_step_tokens first (.object [] key :: opened) (memberTokens rest ++ later)
      have tail := foldlM_step_memberTokens rest opened [] key first.tree later
      rw [tokens, List.append_assoc]
      exact head.trans tail

theorem foldlM_step_itemTokens : (items : List Json) → (opened : List Tree.Frame) →
    (done : List Tree) → (last : Tree) → (later : List Token) →
    (itemTokens items ++ later).foldlM Tree.step (.complete last (.array done :: opened)) =
      later.foldlM Tree.step
        (.complete (.array ((last :: done).reverse ++ itemTrees items)) opened)
  | [], opened, done, last, later => by
      rw [itemTrees, List.append_nil]
      rfl
  | item :: rest, opened, done, last, later => by
      have head := foldlM_step_tokens item (.array (last :: done) :: opened)
        (itemTokens rest ++ later)
      have tail := foldlM_step_itemTokens rest opened (last :: done) item.tree later
      rw [itemTokens, List.append_assoc]
      refine head.trans (tail.trans ?_)
      simp [itemTrees]

theorem foldlM_step_memberTokens : (members : List (String × Json)) → (opened : List Tree.Frame) →
    (done : List (Option String × Tree)) → (key : Option String) → (last : Tree) →
    (later : List Token) →
    (memberTokens members ++ later).foldlM Tree.step (.complete last (.object done key :: opened)) =
      later.foldlM Tree.step
        (.complete (.object (((key, last) :: done).reverse ++ memberTrees members)) opened)
  | [], opened, done, key, last, later => by
      rw [memberTrees, List.append_nil]
      rfl
  | (next, value) :: rest, opened, done, key, last, later => by
      have head := foldlM_step_tokens value (.object ((key, last) :: done) next :: opened)
        (memberTokens rest ++ later)
      have tail := foldlM_step_memberTokens rest opened ((key, last) :: done) next value.tree later
      rw [memberTokens, List.append_assoc]
      refine head.trans (tail.trans ?_)
      simp [memberTrees]

end

theorem ofTokens?_tokens (value : Json) : Tree.ofTokens? value.tokens = some value.tree := by
  have run := foldlM_step_tokens value [] []
  rw [List.append_nil] at run
  rw [Tree.ofTokens?, run]
  rfl

/-! From the text to the tree -/

theorem delimited_of_isSpace {spaces : List Char}
    (blank : ∀ character ∈ spaces, Token.isSpace character = true) : Delimited spaces := by
  intro character listed
  have space := blank character (List.mem_of_mem_head? listed)
  simp only [Token.isSpace, Bool.or_eq_true, beq_iff_eq] at space
  rcases space with ((rfl | rfl) | rfl) | rfl <;> decide

theorem split?_of_blank {spaces : List Char}
    (blank : ∀ character ∈ spaces, Token.isSpace character = true) :
    Token.split? spaces = some [] := by
  have skipped := split?_spaces blank []
  rw [List.append_nil] at skipped
  rw [skipped, Token.split?]

variable {value : Json} (integral : value.Integral) {spaces : List Char}
  (blank : ∀ character ∈ spaces, Token.isSpace character = true)

include integral blank

/-- The compact form is read as the tree of the value. Spaces may follow. -/
theorem treeRead?_compact : Tree.read? (value.compact ++ spaces) = some value.tree := by
  rw [Tree.read?, split?_compact value integral (delimited_of_isSpace blank), split?_of_blank blank,
    Option.map_some, List.append_nil, Option.bind_some, ofTokens?_tokens]

/-- The indented form is read as the same tree. -/
theorem treeRead?_indented : Tree.read? (value.indented ++ spaces) = some value.tree := by
  rw [Tree.read?, indented, split?_indentedAt 0 value integral (delimited_of_isSpace blank),
    split?_of_blank blank, Option.map_some, List.append_nil, Option.bind_some, ofTokens?_tokens]

omit integral blank

/-! From the tree to the value -/

mutual

/-- The tree of a canonical value has this value when its brackets do not nest too deep. -/
theorem value?_tree : (levels : Nat) → (value : Json) → value.Canonical → value.nesting ≤ levels →
    Tree.value? levels value.tree = some value
  | _, null, _, _ | _, boolean _, _, _ | _, number _, _, _ | _, string _, _, _ => by
      simp [tree, Tree.value?]
  | levels + 1, array items, canonical, shallow => by
      have inner := itemValues?_itemTrees levels items canonical (Nat.le_of_succ_le_succ shallow)
      rw [tree, Tree.value?, inner, Option.map_some]
  | levels + 1, object members, canonical, shallow => by
      have inner := memberValues?_memberTrees levels members canonical.2
        (Nat.le_of_succ_le_succ shallow)
      rw [tree, Tree.value?, inner, Option.map_some, Entries.ofList_eq_self canonical.1]

theorem itemValues?_itemTrees : (levels : Nat) → (items : List Json) → CanonicalItems items →
    itemsNesting items ≤ levels → Tree.itemValues? levels (itemTrees items) = some items
  | _, [], _, _ => rfl
  | levels, item :: rest, canonical, shallow => by
      obtain ⟨first, later⟩ := Nat.max_le.mp shallow
      rw [itemTrees, Tree.itemValues?, value?_tree levels item canonical.1 first,
        itemValues?_itemTrees levels rest canonical.2 later]
      rfl

theorem memberValues?_memberTrees : (levels : Nat) → (members : List (String × Json)) →
    CanonicalMembers members → membersNesting members ≤ levels →
    Tree.memberValues? levels (memberTrees members) = some members
  | _, [], _, _ => rfl
  | levels, (key, value) :: rest, canonical, shallow => by
      obtain ⟨first, later⟩ := Nat.max_le.mp shallow
      rw [memberTrees, Tree.memberValues?, value?_tree levels value canonical.1 first,
        memberValues?_memberTrees levels rest canonical.2 later]
      rfl

end

/-- A canonical value without doubles is read back from its compact form. -/
theorem read?_compact (canonical : value.Canonical) (integral : value.Integral)
    (shallow : value.nesting ≤ Tree.nestingLimit) : read? value.compact = some value := by
  have read : Tree.read? (value.compact ++ []) = some value.tree := treeRead?_compact integral nofun
  rw [List.append_nil] at read
  rw [read?, read, Option.bind_some, value?_tree _ value canonical shallow]

end Json

end SchemaInference
