import QueryTyping.Proofs.Nesting
import QueryTyping.Proofs.Rules

/-! The typing relation of the expression language, stated without an order of evaluation, a limit
on nesting or any errors. Inference computes it for all expressions within the limit. -/

namespace QueryTyping

inductive HasType (schema : Schema) (registry : Registry) : Expr → SqlType → Prop where
  | literal (span : Option Span) (value : Literal) :
      HasType schema registry (.literal span value) value.type
  | column {span : Option Span} {qualifier : Option String} {name : String}
      {found : ResolvedColumn}
      (resolved : schema.resolveColumn (Expr.qualifiedName qualifier name) = .ok found) :
      HasType schema registry (.column span qualifier name) found.type
  | arithmetic {span : Option Span} {op : ArithmeticOp} {left right : Expr}
      {first second wider : SqlType}
      (typedLeft : HasType schema registry left first)
      (typedRight : HasType schema registry right second)
      (numericLeft : first.isNumeric) (numericRight : second.isNumeric)
      (widest : SqlType.Widest [first, second] wider) :
      HasType schema registry (.arithmetic span op left right) wider
  | comparison {span : Option Span} {op : ComparisonOp} {left right : Expr}
      {first second : SqlType}
      (typedLeft : HasType schema registry left first)
      (typedRight : HasType schema registry right second)
      (compares : op.Compares first second) :
      HasType schema registry (.comparison span op left right) .boolean
  | like {span : Option Span} {op : LikeOp} {value pattern : Expr}
      (typedValue : HasType schema registry value .string)
      (typedPattern : HasType schema registry pattern .string) :
      HasType schema registry (.like span op value pattern) .boolean
  | logical {span : Option Span} {op : LogicalOp} {operands : List Expr}
      (count : operands.length = op.arity)
      (typed : ∀ operand ∈ operands, HasType schema registry operand .boolean) :
      HasType schema registry (.logical span op operands) .boolean
  /-- The overloads of a name are listed in the order in which they were registered. -/
  | call {span : Option Span} {function name : String} {arguments : List Expr}
      {types : List SqlType} {overloads : List Signature} {signature : Signature} {type : SqlType}
      (typed : List.Forall₂ (HasType schema registry) arguments types)
      (entry : (name, overloads) ∈ registry.entries)
      (named : CasePolicy.insensitive.agree name function)
      (first : First (Signature.Admits · types) overloads signature)
      (gives : signature.returns.Gives types type) :
      HasType schema registry (.call span function arguments) type
  | fieldAccess {span : Option Span} {base : Expr} {field : String} {fields : List Field}
      {found : Field}
      (typed : HasType schema registry base (.struct fields))
      (first : First (fun member => schema.casePolicy.agree member.name field) fields found) :
      HasType schema registry (.fieldAccess span base field) found.type
  | subscript {span : Option Span} {base index : Expr} {container key element : SqlType}
      (typedBase : HasType schema registry base container)
      (typedIndex : HasType schema registry index key)
      (selects : key.Selects container element) :
      HasType schema registry (.subscript span base index) element
  | subquery {span : Option Span} {row : Schema} {column : Field} (single : row.fields = [column]) :
      HasType schema registry (.subquery span row) column.type

section Lists

variable {relation : α → β → Prop}

private theorem forall₂_single {item : α} {others : List β}
    (related : List.Forall₂ relation [item] others) :
    ∃ other, others = [other] ∧ relation item other := by
  obtain ⟨other, _, here, none, rfl⟩ := List.forall₂_cons_left_iff.mp related
  cases none
  exact ⟨other, rfl, here⟩

private theorem forall₂_pair {first second : α} {others : List β}
    (related : List.Forall₂ relation [first, second] others) :
    ∃ left right, others = [left, right] ∧ relation first left ∧ relation second right := by
  obtain ⟨left, _, here, rest, rfl⟩ := List.forall₂_cons_left_iff.mp related
  obtain ⟨right, rfl, there⟩ := forall₂_single rest
  exact ⟨left, right, rfl, here, there⟩

private theorem forall₂_constant {items : List α} {constant : β} :
    (∃ others, List.Forall₂ relation items others ∧ ∀ other ∈ others, other = constant) ↔
      ∀ item ∈ items, relation item constant := by
  induction items with
  | nil => simp
  | cons item rest ih =>
    rw [List.forall_mem_cons, ← ih]
    constructor
    · intro found
      obtain ⟨others, related, same⟩ := found
      cases related with
      | cons first later =>
        obtain ⟨here, below⟩ := List.forall_mem_cons.mp same
        exact ⟨here ▸ first, _, later, below⟩
    · intro each
      obtain ⟨first, others, later, same⟩ := each
      exact ⟨constant :: others, .cons first later, List.forall_mem_cons.mpr ⟨rfl, same⟩⟩

private theorem forall₂_imp_of_mem {other : α → β → Prop} {items : List α} {others : List β}
    (each : ∀ item ∈ items, ∀ value, relation item value → other item value)
    (related : List.Forall₂ relation items others) : List.Forall₂ other items others :=
  ((List.forall₂_and_left _ _).mpr ⟨each, related⟩).imp fun _ value ⟨step, here⟩ => step value here

end Lists

namespace Environment

variable {schema : Schema} {registry : Registry} {options : InferenceOptions} {expr : Expr}
  {type : SqlType}

private theorem conclude_of_hasType (options : InferenceOptions)
    (typed : HasType schema registry expr type) :
    ∃ types, List.Forall₂ (HasType schema registry) expr.operands types ∧
      (Environment.mk schema registry.toCatalog options).conclude expr types = .ok type := by
  cases typed with
  | literal span value => exact ⟨[], .nil, rfl⟩
  | column resolved =>
    refine ⟨[], .nil, ?_⟩
    rw [conclude, unplaced_eq_ok_iff, map_eq_ok_iff]
    exact ⟨_, resolved, rfl⟩
  | arithmetic typedLeft typedRight numericLeft numericRight widest =>
    refine ⟨_, .cons typedLeft (.cons typedRight .nil), ?_⟩
    rw [conclude, unplaced_eq_ok_iff, ArithmeticOp.result_eq_ok_iff]
    exact ⟨numericLeft, numericRight, widest⟩
  | comparison typedLeft typedRight compares =>
    refine ⟨_, .cons typedLeft (.cons typedRight .nil), ?_⟩
    rw [conclude, unplaced_eq_ok_iff, ComparisonOp.result_eq_ok_iff]
    exact ⟨compares, rfl⟩
  | like typedValue typedPattern =>
    refine ⟨_, .cons typedValue (.cons typedPattern .nil), ?_⟩
    rw [conclude, unplaced_eq_ok_iff, LikeOp.result_eq_ok_iff]
    exact ⟨rfl, rfl, rfl⟩
  | logical count typed =>
    obtain ⟨types, operands, booleans⟩ := forall₂_constant.mpr typed
    refine ⟨types, operands, ?_⟩
    rw [conclude, if_pos count, unplaced_eq_ok_iff, LogicalOp.result_eq_ok_iff]
    exact ⟨booleans, rfl⟩
  | call typed entry named first gives =>
    refine ⟨_, typed, ?_⟩
    rw [conclude, Registry.resolve_eq_ok_iff]
    exact ⟨_, _, _, entry, named, first, gives⟩
  | fieldAccess typed first =>
    refine ⟨_, .cons typed .nil, ?_⟩
    rw [conclude, unplaced_eq_ok_iff, Schema.member_eq_ok_iff]
    exact ⟨_, _, rfl, first, rfl⟩
  | @subscript _ base _ container key _ typedBase typedIndex selects =>
    refine ⟨_, .cons typedBase (.cons typedIndex .nil), ?_⟩
    -- The path is for errors only, so that the relation holds with any.
    obtain ⟨selected, fits⟩ : container.element (base.path schema) = .ok type ∧
        container.checkIndex key (base.path schema) = .ok () := SqlType.selects_iff.mpr selects
    simp only [conclude, selected, fits]
    rfl
  | subquery single =>
    refine ⟨[], .nil, ?_⟩
    rw [conclude, unplaced_eq_ok_iff, Schema.scalarType_eq_ok_iff]
    exact ⟨_, single, rfl⟩

private theorem hasType_of_conclude {types : List SqlType}
    (operands : List.Forall₂ (HasType schema registry) expr.operands types)
    (concluded : (Environment.mk schema registry.toCatalog options).conclude expr types =
      .ok type) :
    HasType schema registry expr type := by
  cases expr with
  | literal span value =>
    cases operands
    cases concluded
    exact .literal span value
  | column span qualifier name =>
    cases operands
    rw [conclude, unplaced_eq_ok_iff, map_eq_ok_iff] at concluded
    obtain ⟨found, resolved, rfl⟩ := concluded
    exact .column resolved
  | arithmetic span op left right =>
    obtain ⟨first, second, rfl, typedLeft, typedRight⟩ := forall₂_pair operands
    rw [conclude, unplaced_eq_ok_iff, ArithmeticOp.result_eq_ok_iff] at concluded
    obtain ⟨numericLeft, numericRight, widest⟩ := concluded
    exact .arithmetic typedLeft typedRight numericLeft numericRight widest
  | comparison span op left right =>
    obtain ⟨first, second, rfl, typedLeft, typedRight⟩ := forall₂_pair operands
    rw [conclude, unplaced_eq_ok_iff, ComparisonOp.result_eq_ok_iff] at concluded
    obtain ⟨compares, rfl⟩ := concluded
    exact .comparison typedLeft typedRight compares
  | like span op value pattern =>
    obtain ⟨first, second, rfl, typedValue, typedPattern⟩ := forall₂_pair operands
    rw [conclude, unplaced_eq_ok_iff, LikeOp.result_eq_ok_iff] at concluded
    obtain ⟨rfl, rfl, rfl⟩ := concluded
    exact .like typedValue typedPattern
  | logical span op exprs =>
    rw [conclude] at concluded
    split at concluded
    next count =>
      rw [unplaced_eq_ok_iff, LogicalOp.result_eq_ok_iff] at concluded
      obtain ⟨booleans, rfl⟩ := concluded
      exact .logical count (forall₂_constant.mp ⟨types, operands, booleans⟩)
    next => cases concluded
  | call span function arguments =>
    rw [conclude, Registry.resolve_eq_ok_iff] at concluded
    obtain ⟨name, overloads, signature, entry, named, first, gives⟩ := concluded
    exact .call operands entry named first gives
  | fieldAccess span base field =>
    obtain ⟨container, rfl, typed⟩ := forall₂_single operands
    rw [conclude, unplaced_eq_ok_iff, Schema.member_eq_ok_iff] at concluded
    obtain ⟨fields, found, rfl, first, rfl⟩ := concluded
    exact .fieldAccess typed first
  | subscript span base index =>
    obtain ⟨container, key, rfl, typedBase, typedIndex⟩ := forall₂_pair operands
    simp only [conclude, bind_eq_ok_iff, unplaced_eq_ok_iff, mapError_eq_ok_iff] at concluded
    obtain ⟨element, selected, _, fits, same⟩ := concluded
    cases same
    exact .subscript typedBase typedIndex (SqlType.selects_iff.mp ⟨selected, fits⟩)
  | subquery span row =>
    cases operands
    rw [conclude, unplaced_eq_ok_iff, Schema.scalarType_eq_ok_iff] at concluded
    obtain ⟨column, single, rfl⟩ := concluded
    exact .subquery single

/-- A type that inference finds can be derived by the rules, at whatever level. -/
theorem hasType_of_inferAt {depth : Nat}
    (inferred : (Environment.mk schema registry.toCatalog options).inferAt depth expr =
      .ok type) :
    HasType schema registry expr type := by
  induction expr using Expr.induction generalizing depth type with
  | step expr ih =>
    obtain ⟨_, types, operands, concluded⟩ := (inferAt_eq_ok_iff _).mp inferred
    rw [visited_of_conclude concluded] at operands
    apply hasType_of_conclude _ concluded
    exact forall₂_imp_of_mem (fun operand member _ => ih operand member) operands

/-- A type that can be derived is found at every level that leaves room for the expression. -/
theorem inferAt_of_hasType {depth : Nat} (typed : HasType schema registry expr type)
    (inside : depth + expr.height ≤ options.maxDepth + 1) :
    (Environment.mk schema registry.toCatalog options).inferAt depth expr = .ok type := by
  induction expr using Expr.induction generalizing depth type with
  | step expr ih =>
    obtain ⟨types, operands, concluded⟩ := conclude_of_hasType options typed
    have root := expr.height_pos
    rw [inferAt_eq_ok_iff, visited_of_conclude concluded]
    refine ⟨by dsimp only; omega, types, ?_, concluded⟩
    apply forall₂_imp_of_mem _ operands
    intro operand member type typed
    have lower := Expr.height_operand_lt member
    exact ih operand member typed (by omega)

end Environment

end QueryTyping
