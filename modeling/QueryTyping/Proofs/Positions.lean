import QueryTyping.Proofs.Likeness
import QueryTyping.Proofs.Recasing

/-! Positions only say where an error is. They are handed on to errors and never read, so that an
expression without any of them has the same type or fails for the same cause. -/

namespace QueryTyping

namespace Expr

mutual

/-- The expression without positions, as it is when built by hand. -/
def bare : Expr → Expr
  | literal _ value => literal none value
  | column _ qualifier name => column none qualifier name
  | arithmetic _ op left right => arithmetic none op left.bare right.bare
  | comparison _ op left right => comparison none op left.bare right.bare
  | like _ op value pattern => like none op value.bare pattern.bare
  | logical _ op operands => logical none op (bareAll operands)
  | call _ function arguments => call none function (bareAll arguments)
  | fieldAccess _ base field => fieldAccess none base.bare field
  | subscript _ base index => subscript none base.bare index.bare
  | subquery _ schema => subquery none schema

def bareAll : List Expr → List Expr
  | [] => []
  | expr :: rest => expr.bare :: bareAll rest

end

theorem bareAll_eq_map (exprs : List Expr) : bareAll exprs = exprs.map bare := by
  induction exprs with
  | nil => rfl
  | cons expr rest ih => rw [bareAll, ih, List.map_cons]

theorem visited_bare (expr : Expr) : expr.bare.visited = expr.visited.map bare := by
  cases expr with
  | logical span op operands =>
    simp only [bare, visited, bareAll_eq_map, List.length_map]
    split <;> rfl
  | call span function arguments => exact bareAll_eq_map arguments
  | _ => rfl

/-- Texts show no positions. -/
theorem render_bare (naming : Naming) (expr : Expr) :
    expr.bare.render naming = expr.render naming := by
  induction expr using Expr.induction with
  | step expr ih =>
    have below (exprs : List Expr) (within : exprs ⊆ expr.operands) :
        (exprs.map bare).map (render naming) = exprs.map (render naming) := by
      rw [List.map_map]
      exact List.map_congr_left fun operand member => ih operand (within member)
    cases expr with
    | literal | column | subquery => rfl
    | logical span op operands =>
      have rendered := below operands (List.Subset.refl _)
      simp only [bare, render, bareAll_eq_map, renderAll_eq_map, rendered]
    | call span function arguments =>
      have rendered := below arguments (List.Subset.refl _)
      simp only [bare, render, bareAll_eq_map, renderAll_eq_map, rendered]
    | fieldAccess span base field =>
      have reached := ih base (by simp [operands])
      simp only [bare, render, reached]
    | arithmetic _ _ left right | comparison _ _ left right | like _ _ left right
    | subscript _ left right =>
      have first := ih left (by simp [operands])
      have second := ih right (by simp [operands])
      simp only [bare, render, first, second]

theorem canonical_bare (policy : CasePolicy) (expr : Expr) :
    expr.bare.canonical policy = expr.canonical policy :=
  render_bare _ expr

theorem path_bare (schema : Schema) (expr : Expr) : expr.bare.path schema = expr.path schema := by
  induction expr using Expr.induction with
  | step expr ih =>
    have shown := canonical_bare schema.casePolicy expr
    cases expr with
    | column => rfl
    | fieldAccess span base field =>
      have reached := ih base (by simp [operands])
      simp only [bare, path, reached]
    | subscript span base index =>
      have reached := ih base (by simp [operands])
      simp only [bare, path, reached, canonical_bare]
    | _ => exact shown

end Expr

namespace Environment

variable {environment : Environment}

/-- The rule of a node reads no position, and hands at most that of an index on. -/
theorem conclude_bare (expr : Expr) (types : List SqlType) :
    Alike TypeError.cause (environment.conclude expr types)
      (environment.conclude expr.bare types) := by
  cases expr with
  | literal | column | subquery => cases types <;> rfl
  | arithmetic | comparison | like =>
    rcases types with _ | ⟨first, _ | ⟨second, _ | _⟩⟩ <;> rfl
  | logical span op operands =>
    simp only [Expr.bare, conclude, Expr.bareAll_eq_map, List.length_map]
    exact .refl _
  | call => exact .refl _
  | fieldAccess span base field =>
    rcases types with _ | ⟨container, _ | _⟩
    · rfl
    · simp only [Expr.bare, conclude, Expr.path_bare]
      exact .refl _
    · rfl
  | subscript span base index =>
    rcases types with _ | ⟨container, _ | ⟨key, _ | _⟩⟩
    · rfl
    · rfl
    · simp only [Expr.bare, conclude, Expr.path_bare]
      apply (Alike.refl _).bind
      intro element _
      refine Alike.bind ?_ fun _ _ => .refl _
      exact (Alike.refl _).locate fun _ _ same => same
    · rfl

theorem inferAt_bare (depth : Nat) (expr : Expr) :
    Alike TypeError.cause (environment.inferAt depth expr)
      (environment.inferAt depth expr.bare) := by
  induction expr using Expr.induction generalizing depth with
  | step expr ih =>
    apply inferAt_alike rfl
    · exact fun _ _ same => same
    · rw [Expr.visited_bare, List.forall₂_map_right_iff, List.forall₂_same]
      exact fun operand member => ih operand (expr.visited_subset member) (depth + 1)
    · exact fun types _ => conclude_bare expr types

/-- Positions never influence what is found. Two expressions that only differ in positions have the
same type, or fail with errors that only differ in their position. -/
theorem infer_of_bare (environment : Environment) {first second : Expr}
    (same : first.bare = second.bare) :
    (∃ type, environment.infer first = .ok type ∧ environment.infer second = .ok type) ∨
      ∃ error twin, environment.infer first = .error error ∧
        environment.infer second = .error twin ∧ error.cause = twin.cause ∧
        error.kind = twin.kind ∧ error.message = twin.message := by
  have one : Alike TypeError.cause (environment.infer first) (environment.infer first.bare) :=
    inferAt_bare 1 first
  have two : Alike TypeError.cause (environment.infer second) (environment.infer second.bare) :=
    inferAt_bare 1 second
  rw [same] at one
  rcases (one.trans two.symm).cases with typed | ⟨error, twin, failed, refused, cause⟩
  · exact .inl typed
  · exact .inr ⟨error, twin, failed, refused, cause, congrArg Cause.kind cause,
      congrArg Cause.message cause⟩

/-- `orders.addresses[3][0]`, where the key and the whole may have positions. -/
def thirdAddress (key whole : Option Span) : Expr :=
  let addresses := Expr.column (some ⟨1, 1⟩) (some "orders") "addresses"
  .subscript whole (.subscript none addresses (.literal key (.integer 3)))
    (.literal none (.integer 0))

def numericKey (span : Option Span) : TypeError where
  cause := .mapKey "ORDERS.ADDRESSES" .string .int32
  span := span

/-- The same complaint stands at the key or, if that has no position, at the whole expression. -/
theorem thirdAddress_of_bare :
    let environment : Environment := ⟨addressColumns, Registry.builtin.toCatalog, {}⟩
    let first := thirdAddress (some ⟨1, 18⟩) (some ⟨1, 1⟩)
    let second := thirdAddress none (some ⟨7, 4⟩)
    first.bare = second.bare ∧
    environment.infer first = .error (numericKey (some ⟨1, 18⟩)) ∧
    environment.infer second = .error (numericKey (some ⟨7, 4⟩)) ∧
    ∃ error twin, environment.infer first = .error error ∧
      environment.infer second = .error twin ∧ error.cause = twin.cause ∧
      error.kind = twin.kind ∧ error.message = twin.message := by
  intro environment first second
  have same : first.bare = second.bare := rfl
  have failed : environment.infer first = .error (numericKey (some ⟨1, 18⟩)) := by decide +kernel
  have refused : environment.infer second = .error (numericKey (some ⟨7, 4⟩)) := by decide +kernel
  refine ⟨same, failed, refused, ?_⟩
  rcases environment.infer_of_bare same with ⟨type, typed, _⟩ | found
  · cases failed.symm.trans typed
  · exact found

end Environment

end QueryTyping
