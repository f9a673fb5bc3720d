import QueryTyping.Proofs.Traversal

/-! The base of a field access or of a subscript, reached together with its path in a single walk.
Columns, accesses and subscripts extend the path of what they start from, and any other base is an
expression like all others. Walking this way types every base as inference does, at the same level
and with the same errors. -/

namespace QueryTyping.Environment

/-- Runs the rule of a node that stands `depth` levels deep. -/
def guarded (environment : Environment) (depth : Nat) (expr : Expr)
    (result : Except TypeError α) : Except TypeError α :=
  if environment.options.maxDepth < depth then
    .error { cause := .nestingTooDeep environment.options.maxDepth, span := expr.span }
  else Except.mapError (TypeError.locate expr.span) result

def navigateAt (environment : Environment) (depth : Nat) (expr : Expr) :
    Except TypeError ResolvedColumn :=
  let schema := environment.schema
  match expr with
  | .column _ qualifier name =>
    environment.guarded depth expr <|
      unplaced (schema.resolveColumn (Expr.qualifiedName qualifier name))
  | .fieldAccess _ base field =>
    environment.guarded depth expr do
      let reached ← environment.navigateAt (depth + 1) base
      let type ← unplaced (schema.member reached.type field reached.path)
      return { path := reached.path ++ "." ++ schema.fold field, type }
  | .subscript _ base index =>
    environment.guarded depth expr do
      let reached ← environment.navigateAt (depth + 1) base
      let key ← environment.inferAt (depth + 1) index
      let type ← unplaced (reached.type.element reached.path)
      Except.mapError (TypeError.locate index.span) <|
        unplaced (reached.type.checkIndex key reached.path)
      return { path := reached.path ++ "[" ++ index.canonical schema.casePolicy ++ "]", type }
  | _ => do
    let type ← environment.inferAt depth expr
    return { path := expr.canonical schema.casePolicy, type }
termination_by structural expr

theorem inferAt_eq_guarded (environment : Environment) (depth : Nat) (expr : Expr) :
    environment.inferAt depth expr = environment.guarded depth expr
      (environment.inferAll (depth + 1) expr.visited >>= environment.conclude expr) := by
  unfold guarded
  split
  next deep => exact environment.inferAt_too_deep expr deep
  next within => exact environment.inferAt_eq expr (Nat.not_lt.mp within)

private theorem map_guarded (environment : Environment) (depth : Nat) (expr : Expr)
    (change : α → β) (result : Except TypeError α) :
    change <$> environment.guarded depth expr result =
      environment.guarded depth expr (change <$> result) := by
  unfold guarded
  split
  · rfl
  · cases result <;> rfl

theorem navigateAt_eq (environment : Environment) (depth : Nat) (expr : Expr) :
    environment.navigateAt depth expr =
      (fun type => { path := expr.path environment.schema, type }) <$>
        environment.inferAt depth expr := by
  induction expr using Expr.induction generalizing depth with
  | step expr ih =>
    cases expr with
    | column span qualifier name =>
      rw [inferAt_eq_guarded, map_guarded, navigateAt]
      congr 1
      simp only [Expr.visited, Expr.operands, inferAll, ok_bind, conclude, Expr.path]
      cases environment.schema.resolveColumn (Expr.qualifiedName qualifier name) <;> rfl
    | fieldAccess span base field =>
      have reached := ih base (by simp [Expr.operands]) (depth + 1)
      rw [inferAt_eq_guarded, map_guarded, navigateAt, reached]
      congr 1
      simp [Expr.visited, Expr.operands, inferAll, conclude, Expr.path, bind_map_left, map_bind]
    | subscript span base index =>
      have reached := ih base (by simp [Expr.operands]) (depth + 1)
      rw [inferAt_eq_guarded, map_guarded, navigateAt, reached]
      congr 1
      simp [Expr.visited, Expr.operands, inferAll, conclude, Expr.path, bind_map_left, map_bind]
    | _ => simp [navigateAt, Expr.path]

theorem type_navigateAt (environment : Environment) (depth : Nat) (expr : Expr) :
    ResolvedColumn.type <$> environment.navigateAt depth expr = environment.inferAt depth expr := by
  rw [navigateAt_eq, Functor.map_map]
  exact id_map _

end QueryTyping.Environment
