import QueryTyping.Proofs.Traversal

/-! Two environments compared over one expression. When every node concludes the same in both, up
to errors of certain kinds, so does the whole expression, because the walk stops at the first
error and a type is never revised. -/

namespace QueryTyping

/-- A second result is the same as the first one, unless that is an error of an excused kind. -/
def Agrees (excused : ErrorKind → Prop) (first second : Except TypeError α) : Prop :=
  (∃ error, first = .error error ∧ excused error.kind) ∨ second = first

namespace Agrees

variable {excused : ErrorKind → Prop}

theorem refl (result : Except TypeError α) : Agrees excused result result :=
  .inr rfl

theorem locate {first second : Except TypeError α} (agrees : Agrees excused first second)
    (span : Option Span) :
    Agrees excused (Except.mapError (TypeError.locate span) first)
      (Except.mapError (TypeError.locate span) second) := by
  rcases agrees with ⟨error, rfl, allowed⟩ | rfl
  · exact .inl ⟨error.locate span, rfl, allowed⟩
  · exact refl _

theorem bind {first second : Except TypeError α} {next following : α → Except TypeError β}
    (agrees : Agrees excused first second)
    (rest : ∀ value, Agrees excused (next value) (following value)) :
    Agrees excused (first >>= next) (second >>= following) := by
  rcases agrees with ⟨error, rfl, allowed⟩ | rfl
  · exact .inl ⟨error, rfl, allowed⟩
  · cases second with
    | ok value => exact rest value
    | error error => exact refl _

end Agrees

namespace Environment

variable {excused : ErrorKind → Prop} {first second : Environment}

private theorem inferAll_agrees {depth : Nat} {exprs : List Expr}
    (each : ∀ expr ∈ exprs,
      Agrees excused (first.inferAt depth expr) (second.inferAt depth expr)) :
    Agrees excused (first.inferAll depth exprs) (second.inferAll depth exprs) := by
  induction exprs with
  | nil => exact .refl _
  | cons expr rest ih =>
    apply Agrees.bind (each expr List.mem_cons_self)
    intro type
    apply Agrees.bind (ih fun other member => each other (List.mem_cons_of_mem _ member))
    exact fun types => .refl _

/-- A second environment may look deeper than the first one where too deep a nesting is excused. -/
theorem inferAt_agrees
    (conclusions : ∀ expr types,
      Agrees excused (first.conclude expr types) (second.conclude expr types))
    (limits : first.options.maxDepth ≤ second.options.maxDepth)
    (cut : first.options = second.options ∨ excused .nestingTooDeep) (depth : Nat) (expr : Expr) :
    Agrees excused (first.inferAt depth expr) (second.inferAt depth expr) := by
  induction expr using Expr.induction generalizing depth with
  | step expr ih =>
    by_cases within : depth ≤ first.options.maxDepth
    · rw [first.inferAt_eq expr within, second.inferAt_eq expr (Nat.le_trans within limits)]
      apply Agrees.locate
      apply Agrees.bind
      · exact inferAll_agrees fun operand member =>
          ih operand (expr.visited_subset member) (depth + 1)
      · exact conclusions expr
    · have deep := Nat.not_le.mp within
      rw [first.inferAt_too_deep expr deep]
      rcases cut with same | allowed
      · right
        rw [second.inferAt_too_deep expr (same ▸ deep), same]
      · exact .inl ⟨_, rfl, allowed⟩

end Environment

end QueryTyping
