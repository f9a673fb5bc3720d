import QueryTyping.Proofs.Nesting

/-! Which of several errors is reported. The nodes are tried in post-order, the operands of a node
from left to right and before the node itself, and the first one that has no type on its own
decides why the whole expression has none. -/

namespace QueryTyping

namespace Expr

mutual

/-- The nodes that are looked at, in the order in which they may fail. What stands below a
connective with a wrong number of operands is not among them. -/
def postorder (expr : Expr) : List Expr :=
  match expr with
  | literal .. | column .. | subquery .. => [expr]
  | arithmetic _ _ left right | comparison _ _ left right =>
    left.postorder ++ right.postorder ++ [expr]
  | like _ _ value pattern => value.postorder ++ pattern.postorder ++ [expr]
  | logical _ op operands =>
    if operands.length = op.arity then postorderAll operands ++ [expr] else [expr]
  | call _ _ arguments => postorderAll arguments ++ [expr]
  | fieldAccess _ base _ => base.postorder ++ [expr]
  | subscript _ base index => base.postorder ++ index.postorder ++ [expr]
termination_by structural expr

def postorderAll : List Expr → List Expr
  | [] => []
  | expr :: rest => expr.postorder ++ postorderAll rest
termination_by structural exprs => exprs

end

theorem postorderAll_eq (exprs : List Expr) : postorderAll exprs = exprs.flatMap postorder := by
  induction exprs with
  | nil => rfl
  | cons expr rest ih => simp [postorderAll, ih]

theorem postorder_eq (expr : Expr) :
    expr.postorder = expr.visited.flatMap postorder ++ [expr] := by
  cases expr with
  | logical span op operands =>
    by_cases count : operands.length = op.arity
    · simp [postorder, visited, count, postorderAll_eq]
    · simp [postorder, visited, count]
  | call => simp [postorder, visited, operands, postorderAll_eq]
  | _ => simp [postorder, visited, operands]

end Expr

private theorem findSome?_flatMap (items : List α) (parts : α → List β) (test : β → Option γ) :
    (items.flatMap parts).findSome? test =
      items.findSome? fun item => (parts item).findSome? test := by
  induction items with
  | nil => rfl
  | cons item rest ih =>
    rw [List.flatMap_cons, List.findSome?_append, List.findSome?_cons, ih]
    cases (parts item).findSome? test <;> rfl

private theorem findSome?_congr {items : List α} {first second : α → Option β}
    (same : ∀ item ∈ items, first item = second item) :
    items.findSome? first = items.findSome? second := by
  induction items with
  | nil => rfl
  | cons item rest ih =>
    rw [List.findSome?_cons, List.findSome?_cons, same item List.mem_cons_self,
      ih fun other member => same other (List.mem_cons_of_mem _ member)]

namespace Environment

/-- The first node in post-order that fails on its own decides why the expression fails. -/
theorem failure?_inferAt (environment : Environment) {expr : Expr} {depth : Nat}
    (inside : depth + expr.height ≤ environment.options.maxDepth + 1)
    (shallow : expr.height ≤ environment.options.maxDepth) :
    failure? (environment.inferAt depth expr) =
      expr.postorder.findSome? fun node => failure? (environment.infer node) := by
  induction expr using Expr.induction generalizing depth with
  | step expr ih =>
    have below : failure? (environment.inferAll (depth + 1) expr.visited) =
        expr.visited.findSome? fun operand =>
          operand.postorder.findSome? fun node => failure? (environment.infer node) := by
      rw [failure?_inferAll]
      apply findSome?_congr
      intro operand member
      have lower := Expr.height_operand_lt (expr.visited_subset member)
      exact ih operand (expr.visited_subset member) (by omega) (by omega)
    have root := expr.height_pos
    rw [Expr.postorder_eq, List.findSome?_append, findSome?_flatMap, ← below]
    cases typed : environment.inferAll (depth + 1) expr.visited with
    | error error =>
      rw [environment.inferAt_eq expr (by omega), typed]
      rfl
    | ok types =>
      -- Nothing below fails, and the node on its own is the same as the node in its place.
      have alone : environment.inferAt depth expr = environment.infer expr :=
        environment.inferAt_of_height inside (by omega)
      rw [alone, List.findSome?_cons]
      cases failure? (environment.infer expr) <;> rfl

/-- Either every node has a type on its own and so has the whole expression, or the whole
expression fails with the kind and the message of the first node that does not. It makes no
difference whether the expression is typed for itself or as the base of an access or subscript. -/
theorem infer_fails_first (environment : Environment) (expr : Expr)
    (shallow : expr.height ≤ environment.options.maxDepth) :
    (((∀ node ∈ expr.postorder, ∃ type, environment.infer node = .ok type) ∧
        ∃ type, environment.infer expr = .ok type) ∨
      ∃ before node after error found, expr.postorder = before ++ node :: after ∧
        (∀ earlier ∈ before, ∃ type, environment.infer earlier = .ok type) ∧
        environment.infer node = .error error ∧ environment.infer expr = .error found ∧
        found.kind = error.kind ∧ found.message = error.message) ∧
    ∀ depth, ResolvedColumn.type <$> environment.navigateAt depth expr =
      environment.inferAt depth expr := by
  have law : failure? (environment.infer expr) =
      expr.postorder.findSome? fun node => failure? (environment.infer node) :=
    environment.failure?_inferAt (by omega) shallow
  refine ⟨?_, fun depth => environment.type_navigateAt depth expr⟩
  cases failed : environment.infer expr with
  | ok type =>
    left
    rw [failed] at law
    refine ⟨?_, type, rfl⟩
    intro node member
    exact failure?_eq_none_iff.mp (List.findSome?_eq_none_iff.mp law.symm node member)
  | error found =>
    right
    rw [failed] at law
    obtain ⟨before, node, after, split, fails, earlier⟩ := List.findSome?_eq_some_iff.mp law.symm
    obtain ⟨error, alone, cause⟩ := failure?_eq_some_iff.mp fails
    refine ⟨before, node, after, error, found, split, ?_, alone, rfl, ?_, ?_⟩
    · exact fun other member => failure?_eq_none_iff.mp (earlier other member)
    · simp only [TypeError.kind, cause]
    · simp only [TypeError.message, cause]

/-- `WRAP('x')` -/
def wrappedText : Expr :=
  .call none "WRAP" [.literal none (.string "x")]

/-- `WRAP('x') = B`, where both sides are wrong. -/
def twoFaults : Expr :=
  .comparison none .eq wrappedText (.column none none "B")

/-- The call stands before the column that does not exist. -/
theorem twoFaults_fails_first : twoFaults.height ≤ wrapping.options.maxDepth ∧
    wrapping.infer (.column none none "B") = .error { cause := .fieldNotFound "B" "schema" } ∧
    ∃ error found, wrapping.infer wrappedText = .error error ∧
      wrapping.infer twoFaults = .error found ∧ found.kind = error.kind ∧
      found.message = error.message := by
  have shallow : twoFaults.height ≤ wrapping.options.maxDepth := by decide
  refine ⟨shallow, rfl, ?_⟩
  rcases (infer_fails_first wrapping twoFaults shallow).1 with
    ⟨_, type, typed⟩ | ⟨before, node, after, error, found, split, fine, alone, failed, same⟩
  · cases typed
  · have nodes : twoFaults.postorder =
      [.literal none (.string "x"), wrappedText, .column none none "B", twoFaults] := rfl
    rw [nodes] at split
    rcases before with _ | ⟨text, _ | ⟨call, before⟩⟩
    · obtain ⟨rfl, _⟩ := List.cons.inj split
      cases alone
    · obtain ⟨_, rest⟩ := List.cons.inj split
      obtain ⟨rfl, _⟩ := List.cons.inj rest
      exact ⟨error, found, alone, failed, same⟩
    · obtain ⟨_, rest⟩ := List.cons.inj split
      obtain ⟨rfl, _⟩ := List.cons.inj rest
      obtain ⟨type, typed⟩ := fine wrappedText (by simp)
      cases typed

end Environment

end QueryTyping
