import QueryTyping.Proofs.Likeness
import QueryTyping.Proofs.Nesting
import QueryTyping.Proofs.Rules
import Mathlib.Data.List.Perm.Basic

/-! Arithmetic over operands of every kind. Whatever the operators are and however they are grouped,
the whole has the widest of the types of its operands, and one operand that is no number is enough
for it to have none. -/

namespace QueryTyping

/-- Expressions joined by arithmetic operators, the groups being the subtrees. -/
inductive ArithmeticTree where
  | leaf (expr : Expr)
  | node (span : Option Span) (op : ArithmeticOp) (left right : ArithmeticTree)

namespace ArithmeticTree

def expr : ArithmeticTree → Expr
  | leaf expr => expr
  | node span op left right => .arithmetic span op left.expr right.expr

/-- What is joined, from left to right. -/
def leaves : ArithmeticTree → List Expr
  | leaf expr => [expr]
  | node _ _ left right => left.leaves ++ right.leaves

end ArithmeticTree

namespace Environment

variable {environment : Environment} {tree : ArithmeticTree} {types : List SqlType}

/-- Operands within the limit have the types that they have on their own. -/
theorem infer_operands (environment : Environment) {span : Option Span} {op : ArithmeticOp}
    {left right : Expr}
    (shallow : (Expr.arithmetic span op left right).height ≤ environment.options.maxDepth) :
    environment.infer (.arithmetic span op left right) =
      Except.mapError (TypeError.locate span) (do
        let first ← environment.infer left
        let second ← environment.infer right
        unplaced (op.result first second)) := by
  rw [Expr.height] at shallow
  have one : environment.inferAt 2 left = environment.infer left :=
    environment.inferAt_of_height (by omega) (by omega)
  have two : environment.inferAt 2 right = environment.infer right :=
    environment.inferAt_of_height (by omega) (by omega)
  rw [infer, environment.inferAt_eq _ (by omega)]
  simp only [Expr.visited, Expr.operands, inferAll, bind_assoc, ok_bind, pure_bind, conclude, one,
    two, Expr.span]

theorem infer_operands_eq_ok_iff {span : Option Span} {op : ArithmeticOp} {left right : Expr}
    {type : SqlType}
    (shallow : (Expr.arithmetic span op left right).height ≤ environment.options.maxDepth) :
    environment.infer (.arithmetic span op left right) = .ok type ↔ ∃ first second,
      environment.infer left = .ok first ∧ environment.infer right = .ok second ∧
        first.isNumeric ∧ second.isNumeric ∧ SqlType.Widest [first, second] type := by
  simp only [environment.infer_operands shallow, mapError_eq_ok_iff, bind_eq_ok_iff,
    unplaced_eq_ok_iff, ArithmeticOp.result_eq_ok_iff, exists_and_left]

/-- The types that expressions have on their own. -/
abbrev Types (environment : Environment) (exprs : List Expr) (types : List SqlType) : Prop :=
  List.Forall₂ (fun expr type => environment.infer expr = .ok type) exprs types

private theorem Types.leaf {expr : Expr}
    (typed : environment.Types (ArithmeticTree.leaf expr).leaves types) :
    ∃ type, types = [type] ∧ environment.infer expr = .ok type := by
  obtain ⟨type, _, here, none, rfl⟩ := List.forall₂_cons_left_iff.mp typed
  cases none
  exact ⟨type, rfl, here⟩

private theorem Types.node {span : Option Span} {op : ArithmeticOp} {left right : ArithmeticTree}
    (typed : environment.Types (ArithmeticTree.node span op left right).leaves types) :
    ∃ front back, types = front ++ back ∧ environment.Types left.leaves front ∧
      environment.Types right.leaves back := by
  have front := List.forall₂_take left.leaves.length typed
  have back := List.forall₂_drop left.leaves.length typed
  rw [ArithmeticTree.leaves, List.take_left] at front
  rw [ArithmeticTree.leaves, List.drop_left] at back
  exact ⟨_, _, (List.take_append_drop _ _).symm, front, back⟩

/-- Numbers joined by arithmetic are the widest of them. -/
theorem widest_of_numeric (typed : environment.Types tree.leaves types)
    (shallow : tree.expr.height ≤ environment.options.maxDepth)
    (numeric : ∀ type ∈ types, type.isNumeric) :
    ∃ type, environment.infer tree.expr = .ok type ∧ SqlType.Widest types type := by
  induction tree generalizing types with
  | leaf expr =>
    obtain ⟨type, rfl, here⟩ := typed.leaf
    refine ⟨type, here, List.mem_singleton_self _, numeric type (List.mem_singleton_self _), ?_⟩
    intro other member _
    rw [List.mem_singleton.mp member]
    exact .same type
  | node span op left right first second =>
    obtain ⟨front, back, rfl, one, two⟩ := typed.node
    obtain ⟨some, others⟩ := List.forall_mem_append.mp numeric
    have inside := shallow
    rw [ArithmeticTree.expr, Expr.height] at inside
    obtain ⟨low, here, lowest⟩ := first one (by omega) some
    obtain ⟨high, there, highest⟩ := second two (by omega) others
    obtain ⟨wider, widest⟩ :=
      SqlType.exists_widest (List.mem_cons_self : low ∈ [low, high]) lowest.numeric
    refine ⟨wider, ?_, lowest.append highest widest⟩
    exact (infer_operands_eq_ok_iff shallow).mpr
      ⟨low, high, here, there, lowest.numeric, highest.numeric, widest⟩

/-- Arithmetic never hides an operand that is no number. -/
theorem numeric_of_infer (typed : environment.Types tree.leaves types)
    (shallow : tree.expr.height ≤ environment.options.maxDepth) {type : SqlType}
    (inferred : environment.infer tree.expr = .ok type) (numeric : type.isNumeric) :
    ∀ leaf ∈ types, leaf.isNumeric := by
  induction tree generalizing types type with
  | leaf expr =>
    obtain ⟨only, rfl, here⟩ := typed.leaf
    cases here.symm.trans inferred
    exact List.forall_mem_singleton.mpr numeric
  | node span op left right first second =>
    obtain ⟨front, back, rfl, one, two⟩ := typed.node
    obtain ⟨low, high, here, there, number, another, _⟩ :=
      (infer_operands_eq_ok_iff shallow).mp inferred
    rw [ArithmeticTree.expr, Expr.height] at shallow
    exact List.forall_mem_append.mpr
      ⟨first one (by omega) here number, second two (by omega) there another⟩

theorem exists_type_iff (joined : 2 ≤ tree.leaves.length)
    (typed : environment.Types tree.leaves types)
    (shallow : tree.expr.height ≤ environment.options.maxDepth) :
    (∃ type, environment.infer tree.expr = .ok type) ↔ ∀ leaf ∈ types, leaf.isNumeric := by
  constructor
  · rintro ⟨type, inferred⟩
    refine numeric_of_infer typed shallow inferred ?_
    cases tree with
    | leaf expr => exact absurd joined (by simp [ArithmeticTree.leaves])
    | node span op left right =>
      obtain ⟨_, _, _, _, _, _, widest⟩ := (infer_operands_eq_ok_iff shallow).mp inferred
      exact widest.numeric
  · intro numeric
    obtain ⟨type, inferred, _⟩ := widest_of_numeric typed shallow numeric
    exact ⟨type, inferred⟩

theorem kind_of_arithmetic (typed : environment.Types tree.leaves types)
    (shallow : tree.expr.height ≤ environment.options.maxDepth) {error : TypeError}
    (failed : environment.infer tree.expr = .error error) : error.kind = .typeMismatch := by
  induction tree generalizing types error with
  | leaf expr =>
    obtain ⟨type, rfl, here⟩ := typed.leaf
    cases here.symm.trans failed
  | node span op left right first second =>
    obtain ⟨front, back, rfl, one, two⟩ := typed.node
    rw [ArithmeticTree.expr, environment.infer_operands shallow] at failed
    obtain ⟨inner, raised, rfl⟩ := mapError_eq_error_iff.mp failed
    rw [TypeError.locate_kind]
    rw [ArithmeticTree.expr, Expr.height] at shallow
    rcases bind_eq_error_iff.mp raised with before | ⟨low, _, later⟩
    · exact first one (by omega) before
    · rcases bind_eq_error_iff.mp later with behind | ⟨high, _, refused⟩
      · exact second two (by omega) behind
      · obtain ⟨cause, found, rfl⟩ := unplaced_eq_error_iff.mp refused
        exact ArithmeticOp.result_error found

/-- Trees with the same leaves are both the widest of these, or both spoilt by one of them. -/
theorem alike_of_reordered {other : ArithmeticTree} (joined : 2 ≤ tree.leaves.length)
    (typed : environment.Types tree.leaves types)
    (shallow : tree.expr.height ≤ environment.options.maxDepth)
    (reordered : other.leaves.Perm tree.leaves)
    (within : other.expr.height ≤ environment.options.maxDepth) :
    Alike TypeError.kind (environment.infer tree.expr) (environment.infer other.expr) := by
  obtain ⟨others, retyped, moved⟩ := List.perm_comp_forall₂ reordered typed
  have typeable := exists_type_iff joined typed shallow
  have again := exists_type_iff (reordered.length_eq ▸ joined) retyped within
  simp only [moved.mem_iff] at again
  cases inferred : environment.infer tree.expr with
  | ok type =>
    have numeric := typeable.mp ⟨type, inferred⟩
    obtain ⟨wider, same, widest⟩ := widest_of_numeric typed shallow numeric
    obtain ⟨twin, known, found⟩ := widest_of_numeric retyped within
      fun leaf member => numeric leaf (moved.mem_iff.mp member)
    cases same.symm.trans inferred
    rw [known, widest.unique (found.congr fun _ _ => moved.mem_iff)]
    exact .refl _
  | error error =>
    cases refused : environment.infer other.expr with
    | ok type =>
      obtain ⟨wider, impossible⟩ := typeable.mpr (again.mp ⟨type, refused⟩)
      cases inferred.symm.trans impossible
    | error twin =>
      have same : error.kind = twin.kind :=
        (kind_of_arithmetic typed shallow inferred).trans
          (kind_of_arithmetic retyped within refused).symm
      exact congrArg Except.error same

/-- Arithmetic over two operands or more that have types has a type itself exactly when all of these
are numeric, and then it is the one of greatest rank. Otherwise it is a mismatch. Neither the operators
nor the order and the grouping of the operands make a difference. -/
theorem infer_arithmetic (environment : Environment) (tree : ArithmeticTree)
    {types : List SqlType} (joined : 2 ≤ tree.leaves.length)
    (typed : environment.Types tree.leaves types)
    (shallow : tree.expr.height ≤ environment.options.maxDepth) :
    ((∃ type, environment.infer tree.expr = .ok type) ↔ ∀ leaf ∈ types, leaf.isNumeric) ∧
    (∀ type, environment.infer tree.expr = .ok type →
      type ∈ types ∧ ∃ most, type.rank? = some most ∧
        ∀ leaf ∈ types, ∃ least, leaf.rank? = some least ∧ least ≤ most) ∧
    ((¬ ∀ leaf ∈ types, leaf.isNumeric) →
      ∃ error, environment.infer tree.expr = .error error ∧ error.kind = .typeMismatch) ∧
    ∀ other : ArithmeticTree, other.leaves.Perm tree.leaves →
      other.expr.height ≤ environment.options.maxDepth →
      Alike TypeError.kind (environment.infer tree.expr) (environment.infer other.expr) := by
  have typeable := exists_type_iff joined typed shallow
  refine ⟨typeable, ?_, ?_, ?_⟩
  · intro type inferred
    obtain ⟨wider, same, widest⟩ :=
      widest_of_numeric typed shallow (typeable.mp ⟨type, inferred⟩)
    cases same.symm.trans inferred
    obtain ⟨most, highest, below⟩ := widest.rank
    refine ⟨widest.member, most, highest, ?_⟩
    exact fun leaf member => below leaf member (typeable.mp ⟨_, inferred⟩ leaf member)
  · intro spoilt
    cases failed : environment.infer tree.expr with
    | ok type => exact absurd (typeable.mp ⟨type, failed⟩) spoilt
    | error error => exact ⟨error, rfl, kind_of_arithmetic typed shallow failed⟩
  · exact fun other reordered within => alike_of_reordered joined typed shallow reordered within

/-- `(a + 10000000000) * 0.5` -/
def scaledSum : ArithmeticTree :=
  .node none .mul
    (.node none .add (.leaf (.column none none "a")) (.leaf (.literal none (.long 10000000000))))
    (.leaf (.literal none (.double 0.5)))

/-- `0.5 - a % 10000000000` -/
def scaledRest : ArithmeticTree :=
  .node none .sub (.leaf (.literal none (.double 0.5)))
    (.node none .mod (.leaf (.column none none "a")) (.leaf (.literal none (.long 10000000000))))

/-- The three numeric types in two orders and groupings, under other operators. -/
theorem scaledSum_infer_arithmetic :
    2 ≤ scaledSum.leaves.length ∧
    wrapping.Types scaledSum.leaves [.int32, .int64, .float64] ∧
    scaledSum.expr.height ≤ wrapping.options.maxDepth ∧
    scaledRest.leaves.Perm scaledSum.leaves ∧
    scaledRest.expr.height ≤ wrapping.options.maxDepth ∧
    wrapping.infer scaledSum.expr = .ok .float64 ∧
    Alike TypeError.kind (wrapping.infer scaledSum.expr) (wrapping.infer scaledRest.expr) := by
  have joined : 2 ≤ scaledSum.leaves.length := by decide
  have typed : wrapping.Types scaledSum.leaves [.int32, .int64, .float64] :=
    .cons rfl (.cons rfl (.cons rfl .nil))
  have shallow : scaledSum.expr.height ≤ wrapping.options.maxDepth := by decide
  have reordered : scaledRest.leaves.Perm scaledSum.leaves :=
    (List.perm_append_singleton _ _).symm
  have within : scaledRest.expr.height ≤ wrapping.options.maxDepth := by decide
  obtain ⟨typeable, _, _, regrouped⟩ := infer_arithmetic wrapping scaledSum joined typed shallow
  exact ⟨joined, typed, shallow, reordered, within, rfl, regrouped scaledRest reordered within⟩

end Environment

end QueryTyping
