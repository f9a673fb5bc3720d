import QueryTyping.Inference
import QueryTyping.Proofs.Outcome
import Mathlib.Data.List.Forall2

/-! One equation for all kinds of nodes. A node types the operands it looks into from left to right
and then concludes its own type from theirs, so that a fact about every expression needs one case
for a node and one for a list of operands. -/

namespace QueryTyping

/-- Every member of the second list has one in the first that it is related to. -/
theorem related_of_mem {relation : α → β → Prop} {items : List α} {others : List β}
    (related : List.Forall₂ relation items others) {other : β} (member : other ∈ others) :
    ∃ item ∈ items, relation item other := by
  induction related with
  | nil => cases member
  | cons here _ ih =>
    rcases List.mem_cons.mp member with rfl | later
    · exact ⟨_, List.mem_cons_self, here⟩
    · obtain ⟨item, listed, holds⟩ := ih later
      exact ⟨item, List.mem_cons_of_mem _ listed, holds⟩

namespace Expr

/-- The expressions directly below a node, in the order in which they are typed. -/
def operands : Expr → List Expr
  | literal .. | column .. | subquery .. => []
  | arithmetic _ _ left right | comparison _ _ left right => [left, right]
  | like _ _ value pattern => [value, pattern]
  | logical _ _ operands => operands
  | call _ _ arguments => arguments
  | fieldAccess _ base _ => [base]
  | subscript _ base index => [base, index]

/-- A connective with a wrong number of operands is refused before any of them is looked at. -/
def visited : Expr → List Expr
  | logical _ op operands => if operands.length = op.arity then operands else []
  | expr => expr.operands

theorem visited_subset (expr : Expr) : expr.visited ⊆ expr.operands := by
  cases expr with
  | logical span op operands =>
    simp only [visited]
    split <;> simp [Expr.operands]
  | _ => exact List.Subset.refl _

theorem sizeOf_operand {expr operand : Expr} (member : operand ∈ expr.operands) :
    sizeOf operand < sizeOf expr := by
  cases expr with
  | literal | column | subquery => contradiction
  | logical _ _ operands | call _ _ operands =>
    have smaller : sizeOf operand < sizeOf operands := List.sizeOf_lt_of_mem member
    simp only [logical.sizeOf_spec, call.sizeOf_spec]
    omega
  | fieldAccess _ base _ =>
    obtain rfl : operand = base := by simpa [operands] using member
    simp only [fieldAccess.sizeOf_spec]
    omega
  | arithmetic | comparison | like | subscript =>
    simp only [operands, List.mem_cons, List.not_mem_nil, or_false] at member
    simp only [arithmetic.sizeOf_spec, comparison.sizeOf_spec, like.sizeOf_spec,
      subscript.sizeOf_spec]
    rcases member with rfl | rfl
    · omega
    · omega

/-- What passes from the operands to every node holds of every expression. -/
theorem induction {motive : Expr → Prop}
    (step : ∀ expr, (∀ operand ∈ expr.operands, motive operand) → motive expr) (expr : Expr) :
    motive expr :=
  step expr fun operand _ => induction step operand
termination_by sizeOf expr
decreasing_by exact sizeOf_operand ‹_›

end Expr

namespace Environment

/-- What a node makes of the types of its operands. No node has another number of operands than
its case lists. -/
def conclude (environment : Environment) : Expr → List SqlType → Except TypeError SqlType
  | .literal _ value, [] => .ok value.type
  | .column _ qualifier name, [] =>
    unplaced (ResolvedColumn.type <$>
      environment.schema.resolveColumn (Expr.qualifiedName qualifier name))
  | .arithmetic _ op _ _, [left, right] => unplaced (op.result left right)
  | .comparison _ op _ _, [left, right] => unplaced (op.result left right)
  | .like _ op _ _, [value, pattern] => unplaced (op.result value pattern)
  | .logical _ op operands, types =>
    if operands.length = op.arity then unplaced (op.result types)
    else .error { cause := .operandCount op operands.length }
  | .call _ function _, types => environment.catalog.resolve function types
  | .fieldAccess _ base field, [container] =>
    unplaced (environment.schema.member container field (base.path environment.schema))
  | .subscript _ base index, [container, key] => do
    let element ← unplaced (container.element (base.path environment.schema))
    Except.mapError (TypeError.locate index.span) <|
      unplaced (container.checkIndex key (base.path environment.schema))
    return element
  | .subquery _ schema, [] => unplaced schema.scalarType
  | _, _ => .error { cause := .unsupported "operands" }

theorem inferAt_too_deep (environment : Environment) {depth : Nat} (expr : Expr)
    (deep : environment.options.maxDepth < depth) :
    environment.inferAt depth expr = .error
      { cause := .nestingTooDeep environment.options.maxDepth, span := expr.span } := by
  unfold inferAt
  exact if_pos deep

/-- The step that every node within the limit takes. -/
theorem inferAt_eq (environment : Environment) {depth : Nat} (expr : Expr)
    (within : depth ≤ environment.options.maxDepth) :
    environment.inferAt depth expr = Except.mapError (TypeError.locate expr.span)
      (environment.inferAll (depth + 1) expr.visited >>= environment.conclude expr) := by
  unfold inferAt
  rw [if_neg (Nat.not_lt.mpr within)]
  congr 1
  cases expr with
  | logical span op operands =>
    by_cases count : operands.length = op.arity
    · have same : environment.conclude (.logical span op operands) =
          fun types => unplaced (op.result types) :=
        funext fun _ => if_pos count
      simp only [Expr.visited, if_pos count, same]
    · simp only [Expr.visited, conclude, if_neg count, inferAll, ok_bind]
  | call => rfl
  | _ => simp only [Expr.visited, Expr.operands, inferAll, bind_assoc, ok_bind, pure_bind, conclude]

theorem inferAll_eq_ok_iff (environment : Environment) (depth : Nat) {exprs : List Expr}
    {types : List SqlType} :
    environment.inferAll depth exprs = .ok types ↔
      List.Forall₂ (fun expr type => environment.inferAt depth expr = .ok type) exprs types := by
  induction exprs generalizing types with
  | nil => cases types <;> simp [inferAll]
  | cons expr rest ih =>
    simp only [inferAll, bind_eq_ok_iff]
    constructor
    · intro inferred
      obtain ⟨type, typed, others, typedRest, equal⟩ := inferred
      cases equal
      exact .cons typed (ih.mp typedRest)
    · intro typed
      cases typed with
      | cons first rest => exact ⟨_, first, _, ih.mpr rest, rfl⟩

theorem length_of_inferAll {environment : Environment} {depth : Nat} {exprs : List Expr}
    {types : List SqlType} (typed : environment.inferAll depth exprs = .ok types) :
    types.length = exprs.length :=
  ((environment.inferAll_eq_ok_iff depth).mp typed).length_eq.symm

theorem typed_of_mem {environment : Environment} {depth : Nat} {exprs : List Expr}
    {types : List SqlType}
    (typed : List.Forall₂ (fun expr type => environment.inferAt depth expr = .ok type) exprs types)
    {expr : Expr} (member : expr ∈ exprs) : ∃ type, environment.inferAt depth expr = .ok type := by
  obtain ⟨type, _, here⟩ := related_of_mem typed.flip member
  exact ⟨type, here⟩

/-- Of several operands the first that fails decides why all of them fail. -/
theorem failure?_inferAll (environment : Environment) (depth : Nat) (exprs : List Expr) :
    failure? (environment.inferAll depth exprs) =
      exprs.findSome? fun expr => failure? (environment.inferAt depth expr) := by
  induction exprs with
  | nil => rfl
  | cons expr rest ih =>
    rw [inferAll, List.findSome?_cons, ← ih]
    cases environment.inferAt depth expr with
    | error error => rfl
    | ok type => cases environment.inferAll depth rest <;> rfl

/-- Several operands fail with the error of the first one that does. -/
theorem inferAll_eq_error_iff {environment : Environment} {depth : Nat} {exprs : List Expr}
    {error : TypeError} :
    environment.inferAll depth exprs = .error error ↔ ∃ before operand after,
      exprs = before ++ operand :: after ∧
      (∀ other ∈ before, ∃ type, environment.inferAt depth other = .ok type) ∧
      environment.inferAt depth operand = .error error := by
  constructor
  · intro failed
    induction exprs with
    | nil => cases failed
    | cons expr rest ih =>
      rcases bind_eq_error_iff.mp failed with first | ⟨type, typed, later⟩
      · exact ⟨[], expr, rest, rfl, by simp, first⟩
      · rcases bind_eq_error_iff.mp later with other | ⟨types, _, impossible⟩
        · obtain ⟨before, operand, after, rfl, fine, found⟩ := ih other
          exact ⟨expr :: before, operand, after, rfl,
            List.forall_mem_cons.mpr ⟨⟨type, typed⟩, fine⟩, found⟩
        · cases impossible
  · intro first
    obtain ⟨before, operand, after, rfl, fine, failed⟩ := first
    induction before with
    | nil => rw [List.nil_append, inferAll, failed, error_bind]
    | cons other rest ih =>
      obtain ⟨⟨type, typed⟩, later⟩ := List.forall_mem_cons.mp fine
      rw [List.cons_append, inferAll, typed, ok_bind, ih later, error_bind]

theorem exists_of_inferAll_error {environment : Environment} {depth : Nat} {exprs : List Expr}
    {error : TypeError} (failed : environment.inferAll depth exprs = .error error) :
    ∃ expr ∈ exprs, environment.inferAt depth expr = .error error := by
  obtain ⟨before, operand, after, rfl, _, found⟩ := inferAll_eq_error_iff.mp failed
  exact ⟨operand, List.mem_append_right _ List.mem_cons_self, found⟩

theorem inferAll_congr {first second : Environment} {depth level : Nat} {exprs : List Expr}
    (same : ∀ expr ∈ exprs, first.inferAt depth expr = second.inferAt level expr) :
    first.inferAll depth exprs = second.inferAll level exprs := by
  induction exprs with
  | nil => rfl
  | cons expr rest ih =>
    rw [inferAll, inferAll, same expr List.mem_cons_self,
      ih fun other member => same other (List.mem_cons_of_mem _ member)]

theorem inferAt_eq_ok_iff (environment : Environment) {depth : Nat} {expr : Expr}
    {type : SqlType} :
    environment.inferAt depth expr = .ok type ↔
      depth ≤ environment.options.maxDepth ∧ ∃ types,
        List.Forall₂ (fun operand type => environment.inferAt (depth + 1) operand = .ok type)
          expr.visited types ∧
        environment.conclude expr types = .ok type := by
  by_cases within : depth ≤ environment.options.maxDepth
  · simp only [environment.inferAt_eq expr within, mapError_eq_ok_iff, bind_eq_ok_iff,
      inferAll_eq_ok_iff, within, true_and]
  · simp [environment.inferAt_too_deep expr (Nat.not_le.mp within), within]

end Environment

end QueryTyping
