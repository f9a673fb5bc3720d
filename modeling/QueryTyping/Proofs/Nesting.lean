import QueryTyping.Proofs.Agreement
import QueryTyping.Proofs.Causes
import QueryTyping.Proofs.Navigation

/-! The limit on nesting. The walk goes exactly one level deeper with every operand, so that an
expression is looked into completely when its height is within the limit, and has no type when it
is not. A wider limit changes no answer but the complaint about the limit itself. -/

namespace QueryTyping

namespace Expr

mutual

/-- The number of nodes on the longest way down, the root and the leaf included. -/
def height : Expr → Nat
  | literal .. | column .. | subquery .. => 1
  | arithmetic _ _ left right | comparison _ _ left right => max left.height right.height + 1
  | like _ _ value pattern => max value.height pattern.height + 1
  | logical _ _ operands => heightAll operands + 1
  | call _ _ arguments => heightAll arguments + 1
  | fieldAccess _ base _ => base.height + 1
  | subscript _ base index => max base.height index.height + 1

def heightAll : List Expr → Nat
  | [] => 0
  | expr :: rest => max expr.height (heightAll rest)

end

theorem heightAll_le_iff {exprs : List Expr} {bound : Nat} :
    heightAll exprs ≤ bound ↔ ∀ expr ∈ exprs, expr.height ≤ bound := by
  induction exprs with
  | nil => simp [heightAll]
  | cons expr rest ih => rw [heightAll, Nat.max_le, ih, List.forall_mem_cons]

theorem height_eq (expr : Expr) : expr.height = heightAll expr.operands + 1 := by
  cases expr <;> simp [height, operands, heightAll]

theorem height_pos (expr : Expr) : 0 < expr.height := by
  rw [height_eq]
  exact Nat.succ_pos _

theorem height_operand_lt {expr operand : Expr} (member : operand ∈ expr.operands) :
    operand.height < expr.height := by
  rw [height_eq expr]
  exact Nat.lt_succ_of_le (heightAll_le_iff.mp (Nat.le_refl _) operand member)

end Expr

namespace Environment

variable {expr : Expr} {depth level : Nat}

/-- Only a node that looks into all its operands has a type. -/
theorem visited_of_conclude {environment : Environment} {types : List SqlType} {type : SqlType}
    (typed : environment.conclude expr types = .ok type) : expr.visited = expr.operands := by
  cases expr with
  | logical span op operands =>
    by_cases count : operands.length = op.arity
    · exact if_pos count
    · simp [conclude, count] at typed
  | _ => rfl

theorem height_of_typed (environment : Environment) {type : SqlType}
    (typed : environment.inferAt depth expr = .ok type) :
    depth + expr.height ≤ environment.options.maxDepth + 1 := by
  induction expr using Expr.induction generalizing depth type with
  | step expr ih =>
    obtain ⟨within, types, operands, concluded⟩ := environment.inferAt_eq_ok_iff.mp typed
    rw [visited_of_conclude concluded] at operands
    have bound : Expr.heightAll expr.operands ≤ environment.options.maxDepth - depth := by
      rw [Expr.heightAll_le_iff]
      intro operand member
      obtain ⟨found, typedOperand⟩ := typed_of_mem operands member
      have below := ih operand member typedOperand
      omega
    rw [expr.height_eq]
    omega

/-- An expression is typed alike wherever it stands, as long as it stands within the limit. -/
theorem inferAt_of_height (environment : Environment)
    (inside : depth + expr.height ≤ environment.options.maxDepth + 1)
    (within : level + expr.height ≤ environment.options.maxDepth + 1) :
    environment.inferAt depth expr = environment.inferAt level expr := by
  induction expr using Expr.induction generalizing depth level with
  | step expr ih =>
    have root := expr.height_pos
    rw [environment.inferAt_eq expr (by omega), environment.inferAt_eq expr (by omega)]
    congr 2
    apply inferAll_congr
    intro operand member
    have lower := Expr.height_operand_lt (expr.visited_subset member)
    exact ih operand (expr.visited_subset member) (by omega) (by omega)

theorem not_too_deep_of_height (environment : Environment)
    (quiet : environment.catalog.NeverTooDeep)
    (inside : depth + expr.height ≤ environment.options.maxDepth + 1) {error : TypeError}
    (failed : environment.inferAt depth expr = .error error) : error.kind ≠ .nestingTooDeep := by
  induction expr using Expr.induction generalizing depth error with
  | step expr ih =>
    have root := expr.height_pos
    rw [environment.inferAt_eq expr (by omega)] at failed
    obtain ⟨inner, raised, rfl⟩ := mapError_eq_error_iff.mp failed
    rw [TypeError.locate_kind]
    rcases bind_eq_error_iff.mp raised with below | ⟨types, typed, refused⟩
    · obtain ⟨operand, member, found⟩ := exists_of_inferAll_error below
      have lower := Expr.height_operand_lt (expr.visited_subset member)
      have deeper : depth + 1 + operand.height ≤ environment.options.maxDepth + 1 := by omega
      exact ih operand (expr.visited_subset member) deeper found
    · exact quiet.conclude (length_of_inferAll typed) refused

def withLimit (environment : Environment) (limit : Nat) : Environment :=
  { environment with options := { maxDepth := limit } }

theorem inferAt_withLimit_agrees (environment : Environment) {limit larger : Nat}
    (wider : limit ≤ larger) (depth : Nat) (expr : Expr) :
    Agrees (· = .nestingTooDeep) ((environment.withLimit limit).inferAt depth expr)
      ((environment.withLimit larger).inferAt depth expr) := by
  refine inferAt_agrees ?_ wider (.inr ?_) depth expr
  · intro expr types
    -- The rule of a node reads the schema and the catalog, never the limit.
    have same : (environment.withLimit larger).conclude expr types =
        (environment.withLimit limit).conclude expr types := by
      unfold conclude
      rfl
    exact .inr same
  · rfl

/-- The limit on nesting only ever cuts off: a typed expression is within it, an expression within
it is never called too deep, and an answer that is no such complaint stays the same under every
wider limit. The base of a field access or subscript is on the level that it has as an operand. -/
theorem limit_only_cuts_off (environment : Environment) (expr : Expr) {limit larger : Nat}
    (wider : limit ≤ larger) :
    (∀ type, (environment.withLimit limit).infer expr = .ok type → expr.height ≤ limit) ∧
    (environment.catalog.NeverTooDeep → expr.height ≤ limit →
      ∀ error, (environment.withLimit limit).infer expr = .error error →
        error.kind ≠ .nestingTooDeep) ∧
    ((∀ error, (environment.withLimit limit).infer expr = .error error →
        error.kind ≠ .nestingTooDeep) →
      (environment.withLimit larger).infer expr = (environment.withLimit limit).infer expr) ∧
    ∀ depth, ResolvedColumn.type <$> (environment.withLimit limit).navigateAt depth expr =
      (environment.withLimit limit).inferAt depth expr := by
  refine ⟨?_, ?_, ?_, ?_⟩
  · intro type typed
    have bound : 1 + expr.height ≤ limit + 1 :=
      (environment.withLimit limit).height_of_typed typed
    omega
  · intro quiet inside error failed
    have within : 1 + expr.height ≤ limit + 1 := by omega
    exact (environment.withLimit limit).not_too_deep_of_height quiet within failed
  · intro answered
    rcases environment.inferAt_withLimit_agrees wider 1 expr with ⟨error, failed, tooDeep⟩ | same
    · exact absurd tooDeep (answered error failed)
    · exact same
  · intro depth
    exact type_navigateAt _ depth expr

/-- A row with one column `A`, and a function `WRAP` whose own rule takes an `INT32` only. -/
def wrapping : Environment where
  schema := {
    name := none
    fields := [{ name := "A", type := .int32 }]
    casePolicy := .insensitive
    folded := by decide
    accepted := by decide }
  catalog := {
    contains := (· == "WRAP")
    lookup := fun _ _ => some {
      name := "WRAP"
      params := [.any]
      variadic := false
      returns := .custom fun
        | [.int32] => .ok .string
        | _ => .error { cause := .mismatch "WRAP takes an INT32." }
      description := none
      keyed := by decide
      named := by decide
      repeatable := by decide
      declared := by simp [ReturnRule.argument?] } }

theorem wrapping_neverTooDeep : wrapping.catalog.NeverTooDeep := by
  intro function arguments signature found rule custom types error raised
  cases found
  cases custom
  dsimp only at raised
  split at raised <;> cases raised
  decide

/-- `WRAP(WRAP(A))` -/
def wrappedTwice : Expr :=
  .call none "WRAP" [.call none "WRAP" [.column none none "A"]]

/-- Two levels cut the outer rule off, and a fourth one makes no difference to its complaint. -/
theorem wrappedTwice_cut_off : 3 ≤ 4 ∧ wrapping.catalog.NeverTooDeep ∧ wrappedTwice.height ≤ 3 ∧
    (wrapping.withLimit 2).infer wrappedTwice = .error { cause := .nestingTooDeep 2 } ∧
    (wrapping.withLimit 3).infer wrappedTwice =
      .error { cause := .mismatch "WRAP takes an INT32." } ∧
    (wrapping.withLimit 4).infer wrappedTwice = (wrapping.withLimit 3).infer wrappedTwice := by
  have wider : 3 ≤ 4 := by decide
  have inside : wrappedTwice.height ≤ 3 := by decide
  obtain ⟨_, quiet, same, _⟩ := limit_only_cuts_off wrapping wrappedTwice wider
  exact ⟨wider, wrapping_neverTooDeep, inside, rfl, rfl, same (quiet wrapping_neverTooDeep inside)⟩

end Environment

end QueryTyping
