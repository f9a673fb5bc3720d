import QueryTyping.Proofs.Traversal

/-! Two walks compared through a view that hides a part of every error, such as its position. Two
expressions look alike when their operands do, one by one, and when they conclude alike from the
same types. -/

namespace QueryTyping

/-- Both are the same value, or errors that show the same of themselves. -/
def Alike (view : TypeError → β) (first second : Except TypeError α) : Prop :=
  Except.mapError view first = Except.mapError view second

namespace Alike

variable {view : TypeError → β} {first second : Except TypeError α}

theorem refl (result : Except TypeError α) : Alike view result result :=
  rfl

theorem trans {third : Except TypeError α} (left : Alike view first second)
    (right : Alike view second third) : Alike view first third :=
  Eq.trans left right

theorem symm (alike : Alike view first second) : Alike view second first :=
  Eq.symm alike

/-- Two results that look alike are of one kind. -/
theorem cases (alike : Alike view first second) :
    (∃ value, first = .ok value ∧ second = .ok value) ∨
      ∃ error twin, first = .error error ∧ second = .error twin ∧ view error = view twin := by
  cases first with
  | ok value => exact .inl ⟨value, rfl, mapError_eq_ok_iff.mp (Eq.symm alike)⟩
  | error error =>
    obtain ⟨twin, failed, same⟩ := mapError_eq_error_iff.mp (Eq.symm alike)
    exact .inr ⟨error, twin, rfl, failed, same.symm⟩

/-- Nothing is hidden from a view of the whole error. -/
theorem eq {first second : Except TypeError α} (alike : Alike id first second) :
    first = second := by
  rcases alike.cases with ⟨value, rfl, rfl⟩ | ⟨error, twin, rfl, rfl, same⟩
  · rfl
  · exact congrArg Except.error same

theorem bind {next following : α → Except TypeError γ} (alike : Alike view first second)
    (rest : ∀ value, first = .ok value → Alike view (next value) (following value)) :
    Alike view (first >>= next) (second >>= following) := by
  rcases alike.cases with ⟨value, rfl, rfl⟩ | ⟨error, twin, rfl, rfl, same⟩
  · exact rest value rfl
  · exact congrArg Except.error same

theorem locate {span place : Option Span} (alike : Alike view first second)
    (placed : ∀ error twin, view error = view twin →
      view (error.locate span) = view (twin.locate place)) :
    Alike view (Except.mapError (TypeError.locate span) first)
      (Except.mapError (TypeError.locate place) second) := by
  rcases alike.cases with ⟨value, rfl, rfl⟩ | ⟨error, twin, rfl, rfl, same⟩
  · exact refl _
  · exact congrArg Except.error (placed error twin same)

end Alike

namespace Environment

variable {view : TypeError → β} {first second : Environment} {depth : Nat}

private theorem inferAll_alike {exprs others : List Expr}
    (each : List.Forall₂ (fun expr other =>
      Alike view (first.inferAt depth expr) (second.inferAt depth other)) exprs others) :
    Alike view (first.inferAll depth exprs) (second.inferAll depth others) := by
  induction each with
  | nil => exact .refl _
  | cons here _ ih =>
    apply here.bind
    intro type _
    apply ih.bind
    exact fun types _ => .refl _

/-- The step from the operands to their node. The conclusions are only compared for types that the
operands have. -/
theorem inferAt_alike {expr other : Expr} (options : second.options = first.options)
    (placed : ∀ error twin, view error = view twin →
      view (error.locate expr.span) = view (twin.locate other.span))
    (operands : List.Forall₂ (fun operand twin =>
      Alike view (first.inferAt (depth + 1) operand) (second.inferAt (depth + 1) twin))
      expr.visited other.visited)
    (concluded : ∀ types, first.inferAll (depth + 1) expr.visited = .ok types →
      Alike view (first.conclude expr types) (second.conclude other types)) :
    Alike view (first.inferAt depth expr) (second.inferAt depth other) := by
  by_cases within : depth ≤ first.options.maxDepth
  · rw [first.inferAt_eq expr within, second.inferAt_eq other (options ▸ within)]
    apply Alike.locate _ placed
    exact (inferAll_alike operands).bind concluded
  · have deep := Nat.not_le.mp within
    rw [first.inferAt_too_deep expr deep, second.inferAt_too_deep other (options ▸ deep), options]
    -- A complaint about the depth is an error without a position, placed at the node.
    exact congrArg Except.error (placed { cause := .nestingTooDeep _ } { cause := _ } rfl)

end Environment

end QueryTyping
