import QueryTyping.Proofs.FailFast
import QueryTyping.Proofs.Provenance

/-! What a built signature refers to is there. The index of its rule is below the number of its
parameters, and every list of arguments that it accepts is at least as long. Its rule then never
misses an argument, and an expression is unsupported only where it is malformed itself. -/

namespace QueryTyping

/-- A complaint about types. -/
def Mismatched (result : Except TypeError SqlType) : Prop :=
  ∃ error, result = .error error ∧ error.kind = .typeMismatch

theorem Mismatched.kind {error : TypeError} (refused : Mismatched (.error error)) :
    error.kind = .typeMismatch := by
  obtain ⟨other, same, kind⟩ := refused
  cases same
  exact kind

/-- The outcome that a rule promises for arguments that its signature accepts. Nothing is known about
a custom rule. -/
def ReturnRule.Promises (arguments : List SqlType) (result : Except TypeError SqlType) :
    ReturnRule → Prop
  | fixed type => result = .ok type
  | sameAsArgument index => ∃ type, arguments[index]? = some type ∧ result = .ok type
  | elementOf index => ∃ container, arguments[index]? = some container ∧
    match container with
    | .array element | .map _ element => result = .ok element
    | _ => Mismatched result
  | widestNumeric =>
    ((∃ type, result = .ok type) ↔ ∃ argument ∈ arguments, argument.isNumeric) ∧
      ((∀ argument ∈ arguments, ¬ argument.isNumeric) → Mismatched result)
  | custom _ => True

namespace Signature

variable {signature : Signature} {arguments : List SqlType}

/-- The argument to which a rule refers was passed. -/
theorem exists_argument (accepted : signature.accepts arguments) {index : Nat}
    (refers : signature.returns.argument? = some index) :
    ∃ type, arguments[index]? = some type ∧ signature.argument arguments index = .ok type := by
  have declared := signature.declared index refers
  have passed := Nat.lt_of_lt_of_le declared (length_of_accepts accepted)
  have found := List.getElem?_eq_getElem passed
  refine ⟨arguments[index], found, ?_⟩
  rw [argument, found]

theorem promises_of_accepts (accepted : signature.accepts arguments) :
    signature.returns.Promises arguments (signature.returnType arguments) := by
  cases rule : signature.returns with
  | fixed type => rw [ReturnRule.Promises, returnType, rule]
  | sameAsArgument index =>
    have refers : signature.returns.argument? = some index := by rw [rule, ReturnRule.argument?]
    obtain ⟨type, found, passed⟩ := exists_argument accepted refers
    refine ⟨type, found, ?_⟩
    simp only [returnType, rule, passed]
    rfl
  | widestNumeric =>
    refine ⟨exists_returnType_iff rule arguments, ?_⟩
    intro none
    rcases returnType_of_widestNumeric rule arguments with ⟨type, widest, _⟩ | ⟨_, refused⟩
    · exact absurd widest.numeric (none type widest.member)
    · exact ⟨_, refused, rfl⟩
  | elementOf index =>
    have refers : signature.returns.argument? = some index := by rw [rule, ReturnRule.argument?]
    obtain ⟨container, found, passed⟩ := exists_argument accepted refers
    refine ⟨container, found, ?_⟩
    simp only [returnType, rule, passed, ok_bind]
    cases container with
    | array | map => rfl
    | _ => exact ⟨_, rfl, rfl⟩
  | custom rule => trivial

/-- All that a rule may find fault with are the types of its arguments. -/
theorem kind_of_accepts (accepted : signature.accepts arguments)
    (plain : ¬ signature.returns.isCustom) {error : TypeError}
    (failed : signature.returnType arguments = .error error) : error.kind = .typeMismatch := by
  have promise := promises_of_accepts accepted
  rw [failed] at promise
  cases returned : signature.returns with
  | fixed type =>
    rw [returned] at promise
    cases promise
  | sameAsArgument index =>
    rw [returned] at promise
    obtain ⟨type, _, impossible⟩ := promise
    cases impossible
  | widestNumeric =>
    rw [returned] at promise
    obtain ⟨succeeds, refused⟩ := promise
    refine (refused fun argument member numeric => ?_).kind
    obtain ⟨type, impossible⟩ := succeeds.mpr ⟨argument, member, numeric⟩
    cases impossible
  | elementOf index =>
    rw [returned] at promise
    obtain ⟨container, _, outcome⟩ := promise
    cases container with
    | array | map => cases outcome
    | _ => exact outcome.kind
  | custom rule =>
    rw [returned] at plain
    exact absurd rfl plain

end Signature

/-- A registry without custom rules never calls a call unsupported. -/
theorem Registry.kind_of_resolve {registry : Registry} (plain : registry.toCatalog.Plain)
    {function : String} {arguments : List SqlType} {error : TypeError}
    (failed : registry.toCatalog.resolve function arguments = .error error) :
    error.kind ≠ .unsupportedExpression := by
  rcases registry.toCatalog.resolve_cases function arguments with
    ⟨signature, _, found, same⟩ | ⟨other, same, kind | kind⟩
  · have accepted : signature.accepts arguments := by simpa using List.find?_some found
    have kind := Signature.kind_of_accepts accepted (plain _ _ _ found) (same.symm.trans failed)
    simp [kind]
  · cases same.symm.trans failed
    simp [kind]
  · cases same.symm.trans failed
    simp [kind]

/-- The walk stops at a malformed node, or at something else that is wrong. -/
theorem Environment.malformed_of_inferAt {environment : Environment} {expr : Expr} {depth : Nat}
    {error : TypeError}
    (supported : ∀ function arguments error,
      environment.catalog.resolve function arguments = .error error →
      error.kind ≠ .unsupportedExpression)
    (failed : environment.inferAt depth expr = .error error)
    (unsupported : error.kind = .unsupportedExpression) :
    ∃ node ∈ expr.postorder, node.Malformed := by
  induction expr using Expr.induction generalizing depth error with
  | step expr ih =>
    rw [Expr.postorder_eq]
    by_cases within : depth ≤ environment.options.maxDepth
    · rw [environment.inferAt_eq expr within] at failed
      obtain ⟨inner, raised, rfl⟩ := mapError_eq_error_iff.mp failed
      rw [TypeError.locate_kind] at unsupported
      rcases bind_eq_error_iff.mp raised with below | ⟨types, typed, refused⟩
      · obtain ⟨operand, member, found⟩ := exists_of_inferAll_error below
        obtain ⟨node, inside, malformed⟩ :=
          ih operand (expr.visited_subset member) found unsupported
        refine ⟨node, List.mem_append_left _ ?_, malformed⟩
        exact List.mem_flatMap.mpr ⟨operand, member, inside⟩
      · rcases conclude_error (length_of_inferAll typed) refused with
          ⟨span, function, arguments, _, unresolved⟩ | ⟨_, malformed⟩ | kinds
        · exact absurd unsupported (supported function types inner unresolved)
        · exact ⟨expr, List.mem_append_right _ (List.mem_singleton_self _), malformed⟩
        · simp [unsupported] at kinds
    · rw [environment.inferAt_too_deep expr (Nat.not_le.mp within)] at failed
      cases failed
      cases unsupported

/-- A rule that is not custom keeps its promise for all arguments that its signature accepts, where a
built signature never misses one. So without custom rules no call is unsupported, and an expression
is so only if one of its nodes is malformed, which is then one that the walk looks at. -/
theorem Environment.infer_unsupported :
    (∀ (name : String) (params : List Param) (variadic : Bool) (returns : ReturnRule)
      (description : Option String) (signature : Signature),
      Signature.build name params variadic returns description = .ok signature →
      ∀ arguments, signature.accepts arguments →
        returns.Promises arguments (signature.returnType arguments)) ∧
    ∀ registry : Registry,
      (∀ entry ∈ registry.entries, ∀ signature ∈ entry.2, ¬ signature.returns.isCustom) →
      (∀ function arguments error,
        registry.toCatalog.resolve function arguments = .error error →
        error.kind ≠ .unsupportedExpression) ∧
      ∀ (schema : Schema) (options : InferenceOptions) (expr : Expr) (error : TypeError),
        (Environment.mk schema registry.toCatalog options).infer expr = .error error →
        error.kind = .unsupportedExpression → ∃ node ∈ expr.postorder, node.Malformed := by
  constructor
  · intro name params variadic returns description signature built arguments accepted
    rw [← (Signature.of_build built).2.2.2]
    exact Signature.promises_of_accepts accepted
  · intro registry known
    have plain := Registry.plain_of_entries known
    refine ⟨fun _ _ _ => Registry.kind_of_resolve plain, ?_⟩
    intro schema options expr error failed unsupported
    exact malformed_of_inferAt (fun _ _ _ => Registry.kind_of_resolve plain) failed unsupported

/-- The element of an array, which one number or more follow. -/
def pick : Signature where
  name := "PICK"
  params := [.anyArray, .numeric]
  variadic := true
  returns := .elementOf 0
  description := none
  keyed := by decide
  named := by decide
  repeatable := by decide
  declared := by
    intro index refers
    cases refers
    decide

/-- An `AND` of `TRUE` alone. -/
def loneConjunct : Expr :=
  .logical none .and [.literal none (.boolean true)]

theorem loneConjunct_unsupported :
    Signature.build "pick" [.anyArray, .numeric] true (.elementOf 0) none = .ok pick ∧
    pick.accepts [.array .string, .int32, .int64] ∧
    pick.returnType [.array .string, .int32, .int64] = .ok .string ∧
    ∃ error,
      (Environment.mk Environment.homes Registry.builtin.toCatalog {}).infer loneConjunct =
        .error error ∧
      error.kind = .unsupportedExpression ∧ ∃ node ∈ loneConjunct.postorder, node.Malformed := by
  obtain ⟨promises, law⟩ := Environment.infer_unsupported
  have built : Signature.build "pick" [.anyArray, .numeric] true (.elementOf 0) none = .ok pick :=
    rfl
  have accepted : pick.accepts [.array .string, .int32, .int64] := by decide
  obtain ⟨container, first, element⟩ := promises _ _ _ _ _ _ built _ accepted
  cases first
  have plain : ∀ entry ∈ Registry.builtin.entries, ∀ signature ∈ entry.2,
      ¬ signature.returns.isCustom :=
    fun entry listed => (Registry.builtin_steady entry listed).computed
  refine ⟨built, accepted, element, _, rfl, rfl, ?_⟩
  exact (law Registry.builtin plain).2 Environment.homes {} loneConjunct _ rfl rfl

end QueryTyping
