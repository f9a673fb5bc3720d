import QueryTyping.Proofs.Likeness
import QueryTyping.Proofs.Nesting
import QueryTyping.Proofs.Recasing

/-! Replacing a part of an expression by another one of the same type. What is around the part keeps
its type, or fails with an error of the same kind. Only the text and the position of an error show
how the part was written. -/

namespace QueryTyping

namespace Expr

/-- A node without one of its operands. -/
inductive Frame where
  | arithmeticLeft (span : Option Span) (op : ArithmeticOp) (right : Expr)
  | arithmeticRight (span : Option Span) (op : ArithmeticOp) (left : Expr)
  | comparisonLeft (span : Option Span) (op : ComparisonOp) (right : Expr)
  | comparisonRight (span : Option Span) (op : ComparisonOp) (left : Expr)
  | likeValue (span : Option Span) (op : LikeOp) (pattern : Expr)
  | likePattern (span : Option Span) (op : LikeOp) (value : Expr)
  | logical (span : Option Span) (op : LogicalOp) (before after : List Expr)
  | call (span : Option Span) (function : String) (before after : List Expr)
  | fieldAccess (span : Option Span) (field : String)
  | subscriptBase (span : Option Span) (index : Expr)
  | subscriptIndex (span : Option Span) (base : Expr)

namespace Frame

def fill (expr : Expr) : Frame → Expr
  | arithmeticLeft span op right => .arithmetic span op expr right
  | arithmeticRight span op left => .arithmetic span op left expr
  | comparisonLeft span op right => .comparison span op expr right
  | comparisonRight span op left => .comparison span op left expr
  | likeValue span op pattern => .like span op expr pattern
  | likePattern span op value => .like span op value expr
  | logical span op before after => .logical span op (before ++ expr :: after)
  | call span function before after => .call span function (before ++ expr :: after)
  | fieldAccess span field => .fieldAccess span expr field
  | subscriptBase span index => .subscript span expr index
  | subscriptIndex span base => .subscript span base expr

variable {frame : Frame} {expr other : Expr}

theorem operand_fill : expr ∈ (frame.fill expr).operands := by
  cases frame <;> simp [fill, operands]

/-- Two fillings of a frame look into the same operands, but for the one that was filled in. -/
theorem visited_fill {related : Expr → Expr → Prop} (same : ∀ operand, related operand operand)
    (here : related expr other) :
    List.Forall₂ related (frame.fill expr).visited (frame.fill other).visited := by
  have each (exprs : List Expr) : List.Forall₂ related exprs exprs :=
    List.forall₂_same.mpr fun operand _ => same operand
  have around (before after : List Expr) :
      List.Forall₂ related (before ++ expr :: after) (before ++ other :: after) :=
    List.rel_append (each before) (.cons here (each after))
  cases frame with
  | arithmeticLeft | comparisonLeft | likeValue | subscriptBase | fieldAccess =>
    exact .cons here (each _)
  | arithmeticRight | comparisonRight | likePattern | subscriptIndex =>
    exact .cons (same _) (.cons here .nil)
  | call _ _ before after => exact around before after
  | logical _ _ before after =>
    simp only [fill, visited, List.length_append, List.length_cons]
    split
    · exact around before after
    · exact .nil

end Frame

/-- An expression without one of its parts, as the frames around that part from the innermost to
the outermost. -/
abbrev Context := List Frame

def Context.fill (expr : Expr) : Context → Expr
  | [] => expr
  | frame :: outer => Context.fill (frame.fill expr) outer

theorem Context.height_fill (context : Context) (expr : Expr) :
    context.length + expr.height ≤ (context.fill expr).height := by
  induction context generalizing expr with
  | nil => rw [fill, List.length_nil, Nat.zero_add]
  | cons frame outer ih =>
    have inside : expr.height < (frame.fill expr).height := height_operand_lt Frame.operand_fill
    have around := ih (frame.fill expr)
    rw [fill, List.length_cons]
    omega

end Expr

section Kinds

variable (type : SqlType) (first second : String)

theorem Schema.member_alike (schema : Schema) (field : String) :
    Alike TypeError.kind (unplaced (schema.member type field first))
      (unplaced (schema.member type field second)) := by
  unfold Schema.member
  cases type.fields? with
  | none => rfl
  | some fields => cases found : schema.casePolicy.find? field fields <;> simp only [found] <;> rfl

theorem SqlType.element_alike :
    Alike TypeError.kind (unplaced (type.element first)) (unplaced (type.element second)) := by
  unfold element
  cases type.element? <;> rfl

theorem SqlType.checkIndex_alike (index : SqlType) :
    Alike TypeError.kind (unplaced (type.checkIndex index first))
      (unplaced (type.checkIndex index second)) := by
  unfold checkIndex
  split
  · split <;> rfl
  · split <;> rfl
  · rfl

end Kinds

namespace Environment

variable {environment : Environment} {expr other : Expr} {depth : Nat}

/-- The rule of a node reads the types of its operands. Their text and position only show in
errors. -/
theorem conclude_fill (frame : Expr.Frame) (types : List SqlType) :
    Alike TypeError.kind (environment.conclude (frame.fill expr) types)
      (environment.conclude (frame.fill other) types) := by
  cases frame with
  | arithmeticLeft | arithmeticRight | comparisonLeft | comparisonRight | likeValue
  | likePattern =>
    rcases types with _ | ⟨first, _ | ⟨second, _ | _⟩⟩ <;> rfl
  | logical _ _ before after =>
    simp only [Expr.Frame.fill, conclude, List.length_append, List.length_cons]
    exact .refl _
  | call => exact .refl _
  | fieldAccess span field =>
    rcases types with _ | ⟨container, _ | _⟩
    · rfl
    · exact environment.schema.member_alike container _ _ field
    · rfl
  | subscriptBase | subscriptIndex =>
    rcases types with _ | ⟨container, _ | ⟨key, _ | _⟩⟩
    · rfl
    · rfl
    · apply (container.element_alike _ _).bind
      intro element _
      refine Alike.bind ?_ fun _ _ => .refl _
      exact (container.checkIndex_alike _ _ key).locate fun _ _ same => same
    · rfl

/-- A node stays alike when one of its operands is replaced by one that is alike. -/
theorem inferAt_frame (frame : Expr.Frame)
    (alike : Alike TypeError.kind (environment.inferAt (depth + 1) expr)
      (environment.inferAt (depth + 1) other)) :
    Alike TypeError.kind (environment.inferAt depth (frame.fill expr))
      (environment.inferAt depth (frame.fill other)) := by
  apply inferAt_alike rfl
  · exact fun _ _ same => same
  · exact Expr.Frame.visited_fill (fun _ => .refl _) alike
  · exact fun types _ => conclude_fill frame types

theorem inferAt_context (context : Expr.Context)
    (alike : Alike TypeError.kind (environment.inferAt (depth + context.length) expr)
      (environment.inferAt (depth + context.length) other)) :
    Alike TypeError.kind (environment.inferAt depth (context.fill expr))
      (environment.inferAt depth (context.fill other)) := by
  induction context generalizing expr other with
  | nil => exact alike
  | cons frame outer ih =>
    rw [Expr.Context.fill, Expr.Context.fill]
    apply ih
    exact inferAt_frame frame alike

/-- Typing is compositional. Expressions of one type can stand for each other in every context
within the limit on nesting, as the base or the index of a subscript as well: the whole has the same
type with both, or fails with both and with the same kind of error. -/
theorem infer_of_same_type (context : Expr.Context) {type : SqlType}
    (typed : environment.infer expr = .ok type) (retyped : environment.infer other = .ok type)
    (inside : (context.fill expr).height ≤ environment.options.maxDepth)
    (within : (context.fill other).height ≤ environment.options.maxDepth) :
    (∃ whole, environment.infer (context.fill expr) = .ok whole ∧
        environment.infer (context.fill other) = .ok whole) ∨
      ∃ error twin, environment.infer (context.fill expr) = .error error ∧
        environment.infer (context.fill other) = .error twin ∧ error.kind = twin.kind := by
  have below := context.height_fill expr
  have under := context.height_fill other
  have here : environment.inferAt (1 + context.length) expr = .ok type := by
    rw [← typed]
    exact environment.inferAt_of_height (by omega) (by omega)
  have there : environment.inferAt (1 + context.length) other = .ok type := by
    rw [← retyped]
    exact environment.inferAt_of_height (by omega) (by omega)
  apply Alike.cases
  apply inferAt_context context
  rw [here, there]
  exact .refl _

/-- `…[0]->zip` -/
def firstZip : Expr.Context :=
  [.subscriptBase none (.literal none (.integer 0)), .fieldAccess none "zip"]

/-- `orders.addresses[…]` -/
def addressesOf (kind : String) : Expr :=
  .subscript none (.column none (some "orders") "addresses") (.literal none (.string kind))

/-- `IfNull(orders.addresses['home'], orders.addresses['work'])` -/
def homeOrWork : Expr :=
  .call none "IfNull" [addressesOf "home", addressesOf "work"]

/-- The field is missing from both, but each diagnostic shows its own base. -/
theorem firstZip_of_same_type :
    let environment : Environment := ⟨addressColumns, Registry.builtin.toCatalog, {}⟩
    let type : SqlType := .array (.struct [{ name := "CITY", type := .string }])
    environment.infer (addressesOf "home") = .ok type ∧
    environment.infer homeOrWork = .ok type ∧
    (firstZip.fill (addressesOf "home")).height ≤ environment.options.maxDepth ∧
    (firstZip.fill homeOrWork).height ≤ environment.options.maxDepth ∧
    ∃ error twin, environment.infer (firstZip.fill (addressesOf "home")) = .error error ∧
      environment.infer (firstZip.fill homeOrWork) = .error twin ∧ error.kind = twin.kind ∧
      error.message ≠ twin.message := by
  intro environment type
  have typed : environment.infer (addressesOf "home") = .ok type := by decide +kernel
  have retyped : environment.infer homeOrWork = .ok type := by decide +kernel
  have inside : (firstZip.fill (addressesOf "home")).height ≤ environment.options.maxDepth := by
    decide
  have within : (firstZip.fill homeOrWork).height ≤ environment.options.maxDepth := by decide
  have failed : environment.infer (firstZip.fill (addressesOf "home")) = .error
      { cause := .fieldNotFound "ZIP" "ORDERS.ADDRESSES['home'][0]" } := by decide +kernel
  have refused : environment.infer (firstZip.fill homeOrWork) = .error
      { cause := .fieldNotFound "ZIP"
          "IFNULL(ORDERS.ADDRESSES['home'], ORDERS.ADDRESSES['work'])[0]" } := by decide +kernel
  refine ⟨typed, retyped, inside, within, ?_⟩
  rcases infer_of_same_type firstZip typed retyped inside within with
    ⟨whole, found, _⟩ | ⟨error, twin, here, there, same⟩
  · cases failed.symm.trans found
  · refine ⟨error, twin, here, there, same, ?_⟩
    cases failed.symm.trans here
    cases refused.symm.trans there
    decide

end Environment

end QueryTyping
