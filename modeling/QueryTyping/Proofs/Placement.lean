import QueryTyping.Proofs.Causes
import QueryTyping.Proofs.Nesting
import QueryTyping.Proofs.Overload
import QueryTyping.Proofs.Recasing

/-! Where errors are placed. One node raises the error: all that it looks into has a type, and it has
none. The error gets the position of the first node that has one, from the raising node outwards to
the root. A wrong index is shown at the index, if that has a position. -/

namespace QueryTyping

variable {cause : Cause} {error : TypeError}

/-- Whether a subscript complains about its index and not about what is subscripted. -/
def Cause.concernsIndex : Cause → Bool
  | arrayIndex .. | mapKey .. => true
  | _ => false

theorem SqlType.element_concerns {container : SqlType} {path : String}
    (failed : container.element path = .error cause) : ¬ cause.concernsIndex := by
  unfold SqlType.element at failed
  split at failed <;> cases failed
  exact Bool.false_ne_true

theorem SqlType.checkIndex_concerns {container index : SqlType} {path : String}
    (failed : container.checkIndex index path = .error cause) : cause.concernsIndex := by
  unfold SqlType.checkIndex at failed
  split at failed
  · split at failed <;> cases failed
    rfl
  · split at failed <;> cases failed
    rfl
  · cases failed

theorem span_of_unplaced {result : Except Cause α} (failed : unplaced result = .error error) :
    error.span = none := by
  obtain ⟨cause, _, rfl⟩ := unplaced_eq_error_iff.mp failed
  rfl

/-- Only the rule of a custom function can place an error. -/
theorem Signature.span_of_returnType {signature : Signature} {arguments : List SqlType}
    (failed : signature.returnType arguments = .error error) :
    (∃ rule, signature.returns = .custom rule ∧ rule arguments = .error error) ∨
      error.span = none := by
  unfold Signature.returnType at failed
  split at failed
  · cases failed
  · exact .inr (span_of_unplaced failed)
  · exact .inr (span_of_unplaced failed)
  · exact .inr (span_of_unplaced failed)
  · next rule custom => exact .inl ⟨rule, custom, failed⟩

/-- No custom rule gives its errors a position. -/
def Catalog.NeverPlaces (catalog : Catalog) : Prop :=
  ∀ function arguments signature, catalog.lookup function arguments = some signature →
    ∀ rule, signature.returns = .custom rule →
      ∀ types error, rule types = .error error → error.span = none

theorem Catalog.NeverPlaces.span_of_resolve {catalog : Catalog} (never : catalog.NeverPlaces)
    {function : String} {arguments : List SqlType}
    (failed : catalog.resolve function arguments = .error error) : error.span = none := by
  simp only [Catalog.resolve] at failed
  split at failed
  · split at failed
    · next signature found =>
      rcases Signature.span_of_returnType failed with ⟨rule, custom, raised⟩ | unplaced
      · exact never _ _ _ found rule custom _ _ raised
      · exact unplaced
    · cases failed
      rfl
  · cases failed
    rfl

/-- The nodes at which a complaint of this node is shown, the preferred one first. -/
def Expr.shownAt (cause : Cause) : Expr → List Expr
  | subscript span base index =>
    if cause.concernsIndex then [index, subscript span base index] else [subscript span base index]
  | expr => [expr]

theorem Expr.shownAt_of_not_index (expr : Expr) (other : ¬ cause.concernsIndex) :
    expr.shownAt cause = [expr] := by
  cases expr with
  | subscript => exact if_neg other
  | _ => rfl

namespace Environment

def Typed (environment : Environment) (depth : Nat) (expr : Expr) : Prop :=
  ∃ type, environment.inferAt depth expr = .ok type

/-- A node fails for this cause although everything that it looks into has a type. A node beyond the
limit looks into nothing. -/
def Rejects (environment : Environment) (depth : Nat) (expr : Expr) (cause : Cause) : Prop :=
  failure? (environment.inferAt depth expr) = some cause ∧
    (environment.options.maxDepth < depth ∨
      ∀ operand ∈ expr.visited, environment.Typed (depth + 1) operand)

/-- The walk through an expression goes into the first operand without a type until it comes to a
node that rejects. The last argument lists the nodes above that node, the innermost first. -/
inductive Raises (environment : Environment) (cause : Cause) (node : Expr) :
    Nat → Expr → List Expr → Prop where
  | here {depth : Nat} (rejects : environment.Rejects depth node cause) :
      Raises environment cause node depth node []
  | deeper {depth : Nat} {expr operand : Expr} {ancestors : List Expr}
      (within : depth ≤ environment.options.maxDepth)
      (first : First (¬ environment.Typed (depth + 1) ·) expr.visited operand)
      (inside : Raises environment cause node (depth + 1) operand ancestors) :
      Raises environment cause node depth expr (ancestors ++ [expr])

variable {environment : Environment} {expr node : Expr} {depth : Nat} {ancestors : List Expr}

theorem inferAll_error_iff_first {exprs : List Expr} :
    environment.inferAll depth exprs = .error error ↔ ∃ operand,
      First (¬ environment.Typed depth ·) exprs operand ∧
      environment.inferAt depth operand = .error error := by
  rw [inferAll_eq_error_iff]
  constructor
  · intro failed
    obtain ⟨before, operand, after, split, earlier, found⟩ := failed
    have untyped : ¬ environment.Typed depth operand := by
      intro typed
      obtain ⟨type, inferred⟩ := typed
      cases found.symm.trans inferred
    exact ⟨operand, ⟨before, after, split, untyped, fun other member =>
      not_not_intro (earlier other member)⟩, found⟩
  · intro failed
    obtain ⟨operand, ⟨before, after, split, _, earlier⟩, found⟩ := failed
    exact ⟨before, operand, after, split, fun other member => not_not.mp (earlier other member),
      found⟩

theorem exists_raises (failed : environment.inferAt depth expr = .error error) :
    ∃ node ancestors, environment.Raises error.cause node depth expr ancestors := by
  induction expr using Expr.induction generalizing depth error with
  | step expr ih =>
    have fails : failure? (environment.inferAt depth expr) = some error.cause := by
      rw [failed, failure?]
    by_cases within : depth ≤ environment.options.maxDepth
    · rw [environment.inferAt_eq expr within] at failed
      obtain ⟨inner, raised, rfl⟩ := mapError_eq_error_iff.mp failed
      rcases bind_eq_error_iff.mp raised with below | ⟨types, typed, refused⟩
      · obtain ⟨operand, first, found⟩ := inferAll_error_iff_first.mp below
        have member := expr.visited_subset first.mem
        obtain ⟨node, ancestors, inside⟩ := ih operand member found
        exact ⟨node, ancestors ++ [expr], .deeper within first inside⟩
      · have each := (environment.inferAll_eq_ok_iff _).mp typed
        exact ⟨expr, [], .here ⟨fails, .inr fun operand => typed_of_mem each⟩⟩
    · exact ⟨expr, [], .here ⟨fails, .inl (Nat.not_le.mp within)⟩⟩

namespace Raises

/-- An expression fails with the cause of the node that raises the error. -/
theorem failure? (raises : environment.Raises cause node depth expr ancestors) :
    failure? (environment.inferAt depth expr) = some cause := by
  induction raises with
  | here rejects => exact rejects.1
  | deeper within first _ ih =>
    obtain ⟨error, failed, same⟩ := failure?_eq_some_iff.mp ih
    have below := inferAll_error_iff_first.mpr ⟨_, first, failed⟩
    rw [environment.inferAt_eq _ within, below, error_bind, mapError_error]
    exact congrArg some same

/-- Only one node is to blame, because a node with an operand that fails rejects nothing itself. -/
theorem unique {other : Expr} {reason : Cause} {others : List Expr}
    (raises : environment.Raises cause node depth expr ancestors)
    (again : environment.Raises reason other depth expr others) :
    cause = reason ∧ node = other ∧ ancestors = others := by
  have apart {expr operand : Expr} {depth : Nat} {cause : Cause}
      (within : depth ≤ environment.options.maxDepth)
      (first : First (¬ environment.Typed (depth + 1) ·) expr.visited operand) :
      ¬ environment.Rejects depth expr cause := by
    intro rejects
    rcases rejects.2 with deep | typed
    · exact Nat.not_lt.mpr within deep
    · exact first.holds (typed operand first.mem)
  induction raises generalizing others with
  | here rejects =>
    cases again with
    | here twice => exact ⟨Option.some.inj (rejects.1.symm.trans twice.1), rfl, rfl⟩
    | deeper within first _ => exact absurd rejects (apart within first)
  | deeper within first _ ih =>
    cases again with
    | here twice => exact absurd twice (apart within first)
    | deeper _ same below =>
      obtain rfl := first.unique same
      obtain ⟨same, rfl, rfl⟩ := ih below
      exact ⟨same, rfl, rfl⟩

end Raises

/-- The rule of a node leaves its error to be placed at the node or places it at an index. -/
theorem span_of_conclude (never : environment.catalog.NeverPlaces) {types : List SqlType}
    (failed : environment.conclude expr types = .error error) :
    error.span.or expr.span = (expr.shownAt error.cause).findSome? Expr.span := by
  have atNode (shown : expr.shownAt error.cause = [expr]) (unplaced : error.span = none) :
      error.span.or expr.span = (expr.shownAt error.cause).findSome? Expr.span := by
    rw [shown, unplaced]
    simp
  unfold conclude at failed
  split at failed
  · cases failed
  · exact atNode rfl (span_of_unplaced failed)
  · exact atNode rfl (span_of_unplaced failed)
  · exact atNode rfl (span_of_unplaced failed)
  · exact atNode rfl (span_of_unplaced failed)
  · split at failed
    · exact atNode rfl (span_of_unplaced failed)
    · cases failed
      exact atNode rfl rfl
  · exact atNode rfl (never.span_of_resolve failed)
  · exact atNode rfl (span_of_unplaced failed)
  · next span base index container key =>
    rcases bind_eq_error_iff.mp failed with outside | ⟨element, _, refused⟩
    · obtain ⟨cause, found, rfl⟩ := unplaced_eq_error_iff.mp outside
      exact atNode (if_neg (SqlType.element_concerns found)) rfl
    · rcases bind_eq_error_iff.mp refused with mismatch | ⟨_, _, impossible⟩
      · obtain ⟨inner, wrong, rfl⟩ := mapError_eq_error_iff.mp mismatch
        obtain ⟨cause, found, rfl⟩ := unplaced_eq_error_iff.mp wrong
        have shown : (Expr.subscript span base index).shownAt cause =
            [index, .subscript span base index] := if_pos (SqlType.checkIndex_concerns found)
        simp only [TypeError.locate, shown, List.findSome?_cons, List.findSome?_nil]
        cases index.span <;> cases span <;> rfl
      · cases impossible
  · exact atNode rfl (span_of_unplaced failed)
  · cases failed
    exact atNode (expr.shownAt_of_not_index Bool.false_ne_true) rfl

/-- The node itself is the first to place its error, and every node above it is asked after those
below. -/
theorem Raises.span (raises : environment.Raises cause node depth expr ancestors)
    (never : environment.catalog.NeverPlaces)
    (failed : environment.inferAt depth expr = .error error) :
    error.span = (node.shownAt error.cause ++ ancestors).findSome? Expr.span := by
  induction raises generalizing error with
  | @here depth rejects =>
    rw [List.append_nil]
    by_cases within : depth ≤ environment.options.maxDepth
    · rw [environment.inferAt_eq node within] at failed
      obtain ⟨inner, raised, rfl⟩ := mapError_eq_error_iff.mp failed
      rcases bind_eq_error_iff.mp raised with below | ⟨types, _, refused⟩
      · obtain ⟨operand, first, _⟩ := inferAll_error_iff_first.mp below
        rcases rejects.2 with deep | typed
        · exact absurd within (Nat.not_le.mpr deep)
        · exact absurd (typed operand first.mem) first.holds
      · exact span_of_conclude never refused
    · rw [environment.inferAt_too_deep node (Nat.not_le.mp within)] at failed
      cases failed
      have shown : node.shownAt (.nestingTooDeep environment.options.maxDepth) = [node] :=
        node.shownAt_of_not_index Bool.false_ne_true
      rw [shown]
      simp
  | deeper within first inside ih =>
    obtain ⟨inner, below, _⟩ := failure?_eq_some_iff.mp inside.failure?
    have untyped := inferAll_error_iff_first.mpr ⟨_, first, below⟩
    rw [environment.inferAt_eq _ within, untyped, error_bind, mapError_error] at failed
    cases failed
    rw [← List.append_assoc, List.findSome?_append, TypeError.locate, ih below]
    simp

/-- Errors carry the innermost position there is. One node raises the error, and the position is that
of the first node with one on the way from there to the root. A wrong index comes before its
subscript. No other node lends its position, so that there is none if none of these has one. The
error is the same for a base of a field access or subscript. -/
theorem infer_innermost (environment : Environment) (never : environment.catalog.NeverPlaces)
    {expr : Expr} {error : TypeError} (failed : environment.infer expr = .error error) :
    (∃ node ancestors, environment.Raises error.cause node 1 expr ancestors ∧
      (∀ cause other others, environment.Raises cause other 1 expr others →
        cause = error.cause ∧ other = node ∧ others = ancestors) ∧
      error.span = (node.shownAt error.cause ++ ancestors).findSome? Expr.span ∧
      (error.span = none ↔ ∀ shown ∈ node.shownAt error.cause ++ ancestors, shown.span = none) ∧
      ∀ span, error.span = some span →
        ∃ shown ∈ node.shownAt error.cause ++ ancestors, shown.span = some span) ∧
    environment.navigateAt 1 expr = .error error := by
  obtain ⟨node, ancestors, raises⟩ := exists_raises failed
  have position := raises.span never failed
  refine ⟨⟨node, ancestors, raises, ?_, position, ?_, ?_⟩, ?_⟩
  · intro cause other others again
    exact again.unique raises
  · rw [position, List.findSome?_eq_none_iff]
  · intro span placed
    rw [position] at placed
    exact List.exists_of_findSome?_eq_some placed
  · rw [navigateAt_eq, map_eq_error_iff]
    exact failed

theorem wrapping_neverPlaces : wrapping.catalog.NeverPlaces := by
  intro function arguments signature found rule custom types error raised
  cases found
  cases custom
  dsimp only at raised
  split at raised <;> cases raised
  rfl

/-- `WRAP(orders.addresses[3][0]->city)`. Only the whole, the column and the last index have
positions. -/
def wrappedCity : Expr :=
  let addresses := Expr.column (some ⟨1, 6⟩) (some "orders") "addresses"
  let address := Expr.subscript none (.subscript none addresses (.literal none (.integer 3)))
    (.literal (some ⟨1, 26⟩) (.integer 0))
  .call (some ⟨1, 1⟩) "WRAP" [.fieldAccess none address "city"]

/-- The key has the wrong type. Neither the column before it nor the index behind it places that. -/
theorem wrappedCity_innermost :
    let environment : Environment := ⟨addressColumns, wrapping.catalog, {}⟩
    let error : TypeError :=
      { cause := .mapKey "ORDERS.ADDRESSES" .string .int32, span := some ⟨1, 1⟩ }
    wrapping.catalog.NeverPlaces ∧ environment.infer wrappedCity = .error error ∧
    (∃ node ancestors, environment.Raises error.cause node 1 wrappedCity ancestors ∧
      error.span = (node.shownAt error.cause ++ ancestors).findSome? Expr.span) ∧
    environment.navigateAt 1 wrappedCity = .error error := by
  intro environment error
  have failed : environment.infer wrappedCity = .error error := by decide +kernel
  obtain ⟨⟨node, ancestors, raises, _, position, _⟩, navigated⟩ :=
    infer_innermost environment wrapping_neverPlaces failed
  exact ⟨wrapping_neverPlaces, failed, ⟨node, ancestors, raises, position⟩, navigated⟩

end Environment

end QueryTyping
