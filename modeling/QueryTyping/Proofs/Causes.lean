import QueryTyping.Proofs.Traversal

/-! The kinds of error that each rule can raise. Only the rule of a custom function is free to
raise any kind. -/

namespace QueryTyping

variable {schema : Schema} {cause : Cause} {type : SqlType}

theorem ArithmeticOp.result_error {op : ArithmeticOp} {left right : SqlType}
    (failed : op.result left right = .error cause) : cause.kind = .typeMismatch := by
  unfold ArithmeticOp.result at failed
  split at failed <;> cases failed
  rfl

theorem ComparisonOp.result_error {op : ComparisonOp} {left right : SqlType}
    (failed : op.result left right = .error cause) : cause.kind = .typeMismatch := by
  unfold ComparisonOp.result at failed
  split at failed <;> cases failed
  rfl

theorem LikeOp.result_error {op : LikeOp} {value pattern : SqlType}
    (failed : op.result value pattern = .error cause) : cause.kind = .typeMismatch := by
  unfold LikeOp.result at failed
  split at failed <;> cases failed
  rfl

theorem LogicalOp.result_error {op : LogicalOp} {operands : List SqlType}
    (failed : op.result operands = .error cause) : cause.kind = .typeMismatch := by
  unfold LogicalOp.result at failed
  split at failed <;> cases failed
  rfl

theorem SqlType.element_error {path : String} (failed : type.element path = .error cause) :
    cause.kind = .notArrayType := by
  unfold SqlType.element at failed
  split at failed <;> cases failed
  rfl

theorem SqlType.checkIndex_error {container : SqlType} {path : String}
    (failed : container.checkIndex type path = .error cause) : cause.kind = .typeMismatch := by
  unfold SqlType.checkIndex at failed
  split at failed
  · split at failed <;> cases failed
    rfl
  · split at failed <;> cases failed
    rfl
  · cases failed

namespace Schema

theorem scalarType_error (failed : schema.scalarType = .error cause) :
    cause.kind = .unsupportedExpression ∧ schema.fields.length ≠ 1 := by
  unfold scalarType at failed
  split at failed
  · cases failed
  · next several =>
    cases failed
    refine ⟨rfl, fun one => ?_⟩
    obtain ⟨column, single⟩ := List.length_eq_one_iff.mp one
    exact several column single

theorem member_error {field path : String} (failed : schema.member type field path = .error cause) :
    cause.kind = .notStructType ∨ cause.kind = .fieldNotFound := by
  unfold member at failed
  split at failed
  · cases failed
    exact .inl rfl
  · split at failed <;> cases failed
    exact .inr rfl

theorem column?_error {name : String} (failed : schema.column? name = .error cause) :
    cause.kind = .ambiguousField := by
  simp only [column?] at failed
  split at failed
  · cases failed
  · split at failed
    · split at failed <;> cases failed
    · split at failed <;> cases failed
      rfl

theorem follow_error {path : String} {segments : List String}
    (failed : schema.follow path type segments = .error cause) :
    cause.kind = .notStructType ∨ cause.kind = .fieldNotFound := by
  induction segments generalizing path type with
  | nil => cases failed
  | cons segment rest ih =>
    rcases bind_eq_error_iff.mp failed with missing | ⟨inner, _, later⟩
    · exact member_error missing
    · exact ih later

theorem firstColumn_error {name : String} {fronts : List (List String × List String)}
    (failed : schema.firstColumn name fronts = .error cause) :
    cause.kind = .fieldNotFound ∨ cause.kind = .ambiguousField ∨ cause.kind = .notStructType := by
  induction fronts with
  | nil =>
    cases failed
    exact .inl rfl
  | cons first shorter ih =>
    rcases bind_eq_error_iff.mp failed with ambiguous | ⟨column, _, later⟩
    · exact .inr (.inl (column?_error ambiguous))
    · cases column with
      | none => exact ih later
      | some field =>
        rcases follow_error later with other | missing
        · exact .inr (.inr other)
        · exact .inl missing

theorem resolveColumn_error {name : String} (failed : schema.resolveColumn name = .error cause) :
    cause.kind = .fieldNotFound ∨ cause.kind = .ambiguousField ∨ cause.kind = .notStructType :=
  firstColumn_error failed

end Schema

theorem Signature.argument_error {signature : Signature} {arguments : List SqlType} {index : Nat}
    (failed : signature.argument arguments index = .error cause) :
    cause.kind = .unsupportedExpression := by
  unfold Signature.argument at failed
  split at failed <;> cases failed
  rfl

/-- A result rule that is not custom complains about its arguments only. -/
theorem Signature.returnType_error {signature : Signature} {arguments : List SqlType}
    {error : TypeError} (failed : signature.returnType arguments = .error error) :
    (∃ rule, signature.returns = .custom rule ∧ rule arguments = .error error) ∨
      error.kind = .unsupportedExpression ∨ error.kind = .typeMismatch := by
  unfold Signature.returnType at failed
  split at failed
  · cases failed
  · obtain ⟨cause, missing, rfl⟩ := unplaced_eq_error_iff.mp failed
    exact .inr (.inl (argument_error missing))
  · obtain ⟨cause, found, rfl⟩ := unplaced_eq_error_iff.mp failed
    split at found <;> cases found
    exact .inr (.inr rfl)
  · obtain ⟨cause, found, rfl⟩ := unplaced_eq_error_iff.mp failed
    rcases bind_eq_error_iff.mp found with missing | ⟨container, _, other⟩
    · exact .inr (.inl (argument_error missing))
    · split at other <;> cases other
      exact .inr (.inr rfl)
  · next rule custom => exact .inl ⟨rule, custom, failed⟩

/-- The errors of calls that find no overload. -/
def ErrorKind.Unresolved (kind : ErrorKind) : Prop :=
  kind = .unknownFunction ∨ kind = .noMatchingSignature

theorem Catalog.resolve_of_lookup {catalog : Catalog} {function : String}
    {arguments : List SqlType} {signature : Signature}
    (known : catalog.contains (Text.upper function))
    (found : catalog.lookup (Text.upper function) arguments = some signature) :
    catalog.resolve function arguments = signature.returnType arguments := by
  simp only [Catalog.resolve, if_pos known, found]

/-- A call finds an overload or fails for want of one. -/
theorem Catalog.resolve_cases (catalog : Catalog) (function : String) (arguments : List SqlType) :
    (∃ signature, catalog.contains (Text.upper function) ∧
      catalog.lookup (Text.upper function) arguments = some signature ∧
      catalog.resolve function arguments = signature.returnType arguments) ∨
    ∃ error, catalog.resolve function arguments = .error error ∧ error.kind.Unresolved := by
  by_cases known : catalog.contains (Text.upper function)
  · cases found : catalog.lookup (Text.upper function) arguments with
    | some signature => exact .inl ⟨signature, known, rfl, resolve_of_lookup known found⟩
    | none =>
      refine .inr ⟨{ cause := .noMatchingSignature (Text.upper function) arguments }, ?_, .inr rfl⟩
      simp only [Catalog.resolve, if_pos known, found]
  · refine .inr ⟨{ cause := .unknownFunction (Text.upper function) }, ?_, .inl rfl⟩
    simp only [Catalog.resolve, if_neg known]

private theorem kind_of_unplaced {result : Except Cause α} {error : TypeError}
    (failed : unplaced result = .error error) :
    ∃ cause, result = .error cause ∧ error.kind = cause.kind := by
  obtain ⟨cause, found, rfl⟩ := unplaced_eq_error_iff.mp failed
  exact ⟨cause, found, rfl⟩

/-- A node that is refused whatever its operands are: a connective with a wrong number of them, or a
subquery that does not have exactly one column. -/
def Expr.Malformed : Expr → Prop
  | .logical _ op operands => operands.length ≠ op.arity
  | .subquery _ schema => schema.fields.length ≠ 1
  | _ => False

/-- The rule of a node complains about names, about types or about its form. Only a call may raise
other kinds, those of its overloads. -/
theorem Environment.conclude_error {environment : Environment} {expr : Expr}
    {types : List SqlType} {error : TypeError} (count : types.length = expr.visited.length)
    (failed : environment.conclude expr types = .error error) :
    (∃ span function arguments, expr = .call span function arguments ∧
      environment.catalog.resolve function types = .error error) ∨
    (error.kind = .unsupportedExpression ∧ expr.Malformed) ∨
    error.kind ∈ [.fieldNotFound, .ambiguousField, .notStructType, .notArrayType,
      .typeMismatch] := by
  cases expr with
  | literal =>
    obtain rfl := List.length_eq_zero_iff.mp count
    cases failed
  | column =>
    obtain rfl := List.length_eq_zero_iff.mp count
    obtain ⟨cause, found, same⟩ := kind_of_unplaced failed
    rw [map_eq_error_iff] at found
    rcases Schema.resolveColumn_error found with kind | kind | kind <;> simp [same, kind]
  | arithmetic =>
    obtain ⟨left, right, rfl⟩ := List.length_eq_two.mp count
    obtain ⟨cause, found, same⟩ := kind_of_unplaced failed
    simp [same, ArithmeticOp.result_error found]
  | comparison =>
    obtain ⟨left, right, rfl⟩ := List.length_eq_two.mp count
    obtain ⟨cause, found, same⟩ := kind_of_unplaced failed
    simp [same, ComparisonOp.result_error found]
  | like =>
    obtain ⟨value, pattern, rfl⟩ := List.length_eq_two.mp count
    obtain ⟨cause, found, same⟩ := kind_of_unplaced failed
    simp [same, LikeOp.result_error found]
  | logical span op operands =>
    simp only [conclude] at failed
    split at failed
    · obtain ⟨cause, found, same⟩ := kind_of_unplaced failed
      simp [same, LogicalOp.result_error found]
    · next wrong =>
      cases failed
      exact .inr (.inl ⟨rfl, wrong⟩)
  | call span function arguments => exact .inl ⟨span, function, arguments, rfl, failed⟩
  | fieldAccess =>
    obtain ⟨container, rfl⟩ := List.length_eq_one_iff.mp count
    obtain ⟨cause, found, same⟩ := kind_of_unplaced failed
    rcases Schema.member_error found with kind | kind <;> simp [same, kind]
  | subscript =>
    obtain ⟨container, key, rfl⟩ := List.length_eq_two.mp count
    rcases bind_eq_error_iff.mp failed with outside | ⟨element, _, refused⟩
    · obtain ⟨cause, found, same⟩ := kind_of_unplaced outside
      simp [same, SqlType.element_error found]
    · rcases bind_eq_error_iff.mp refused with mismatch | ⟨_, _, impossible⟩
      · obtain ⟨inner, wrong, rfl⟩ := mapError_eq_error_iff.mp mismatch
        obtain ⟨cause, found, same⟩ := kind_of_unplaced wrong
        simp [same, SqlType.checkIndex_error found]
      · cases impossible
  | subquery =>
    obtain rfl := List.length_eq_zero_iff.mp count
    obtain ⟨cause, found, same⟩ := kind_of_unplaced failed
    obtain ⟨kind, several⟩ := Schema.scalarType_error found
    exact .inr (.inl ⟨same.trans kind, several⟩)

/-- No custom rule claims that an expression is nested too deeply. -/
def Catalog.NeverTooDeep (catalog : Catalog) : Prop :=
  ∀ function arguments signature, catalog.lookup function arguments = some signature →
    ∀ rule, signature.returns = .custom rule →
      ∀ types error, rule types = .error error → error.kind ≠ .nestingTooDeep

theorem Catalog.NeverTooDeep.resolve {catalog : Catalog} (quiet : catalog.NeverTooDeep)
    {function : String} {arguments : List SqlType} {error : TypeError}
    (failed : catalog.resolve function arguments = .error error) :
    error.kind ≠ .nestingTooDeep := by
  rcases catalog.resolve_cases function arguments with
    ⟨signature, _, found, same⟩ | ⟨other, same, kind | kind⟩
  · rcases Signature.returnType_error (same.symm.trans failed) with
      ⟨rule, custom, raised⟩ | kind | kind
    · exact quiet _ _ _ found rule custom _ _ raised
    · simp [kind]
    · simp [kind]
  · cases same.symm.trans failed
    simp [kind]
  · cases same.symm.trans failed
    simp [kind]

theorem Catalog.NeverTooDeep.conclude {environment : Environment}
    (quiet : environment.catalog.NeverTooDeep) {expr : Expr} {types : List SqlType}
    {error : TypeError} (count : types.length = expr.visited.length)
    (failed : environment.conclude expr types = .error error) :
    error.kind ≠ .nestingTooDeep := by
  rcases Environment.conclude_error count failed with
    ⟨span, function, arguments, rfl, refused⟩ | ⟨kind, _⟩ | kinds
  · exact quiet.resolve refused
  · simp [kind]
  · intro deep
    simp [deep] at kinds

end QueryTyping
