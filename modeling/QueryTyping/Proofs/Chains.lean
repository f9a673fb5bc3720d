import QueryTyping.Function.Builtin
import QueryTyping.Proofs.Nesting
import QueryTyping.Proofs.Precedence
import QueryTyping.Proofs.Recasing
import Mathlib.Data.List.Induction

/-! Chains of field accesses and subscripts behind a column. Each step starts from the type and the
path that the steps before it have reached, so that the type of a chain is found from left to right,
and its error is that of the first step that leads nowhere. -/

namespace QueryTyping

namespace Expr

/-- A link of a chain. -/
inductive Step where
  | field (span : Option Span) (name : String)
  | index (span : Option Span) (key : Expr)

namespace Step

def span : Step → Option Span
  | field span _ | index span _ => span

/-- The node that takes this step from what its base leads to. -/
def onto (base : Expr) : Step → Expr
  | field span name => .fieldAccess span base name
  | index span key => .subscript span base key

/-- How the step is shown behind the path of its base. -/
def suffix (schema : Schema) : Step → String
  | field _ name => "." ++ schema.fold name
  | index _ key => "[" ++ key.canonical schema.casePolicy ++ "]"

theorem height_onto (base : Expr) (step : Step) : base.height < (step.onto base).height := by
  cases step with
  | field span name => exact height_operand_lt List.mem_cons_self
  | index span key => exact height_operand_lt List.mem_cons_self

end Step

def chain (base : Expr) (steps : List Step) : Expr :=
  steps.foldl Step.onto base

theorem height_chain (base : Expr) (steps : List Step) :
    base.height + steps.length ≤ (chain base steps).height := by
  induction steps generalizing base with
  | nil => exact Nat.le_refl _
  | cons step rest ih =>
    have longer : (step.onto base).height + rest.length ≤ (chain base (step :: rest)).height :=
      ih (step.onto base)
    have lower := step.height_onto base
    rw [List.length_cons]
    omega

end Expr

namespace Environment

variable {environment : Environment} {steps : List Expr.Step} {start reached : ResolvedColumn}
  {error : TypeError}

/-- What an index of some type selects from a container. Only a wrong index has a position of its
own. -/
def select (reached : ResolvedColumn) (index : SqlType) (suffix : String) (place : Option Span) :
    Except TypeError ResolvedColumn :=
  match reached.type with
  | .array items =>
    if index.isIntegral then .ok { path := reached.path ++ suffix, type := items }
    else .error { cause := .arrayIndex reached.path index, span := place }
  | .map key value =>
    if index.promotes key then .ok { path := reached.path ++ suffix, type := value }
    else .error { cause := .mapKey reached.path key index, span := place }
  | found => .error { cause := .notArray reached.path found }

/-- One step of a navigation, from what has been reached to what is reached next. An index has to
have a type of its own before anything else is asked of it. -/
def advance (environment : Environment) (reached : ResolvedColumn) :
    Expr.Step → Except TypeError ResolvedColumn
  | .field _ name => unplaced (environment.schema.enter reached name)
  | .index span key => do
    let index ← environment.infer key
    select reached index (Expr.Step.suffix environment.schema (.index span key)) key.span

/-- An error is handed on, and gets the position of the first step behind it that has one. -/
def proceed (environment : Environment) (reached : Except TypeError ResolvedColumn)
    (step : Expr.Step) : Except TypeError ResolvedColumn :=
  Except.mapError (TypeError.locate step.span) (reached >>= (environment.advance · step))

/-- Where a chain starts. -/
def reachColumn (environment : Environment) (span : Option Span) (qualifier : Option String)
    (name : String) : Except TypeError ResolvedColumn :=
  Except.mapError (TypeError.locate span)
    (unplaced (environment.schema.resolveColumn (Expr.qualifiedName qualifier name)))

theorem select_eq (reached : ResolvedColumn) (index : SqlType) (suffix : String)
    (place : Option Span) :
    select reached index suffix place = (do
      let type ← unplaced (reached.type.element reached.path)
      Except.mapError (TypeError.locate place) <|
        unplaced (reached.type.checkIndex index reached.path)
      return { path := reached.path ++ suffix, type }) := by
  obtain ⟨path, type⟩ := reached
  cases type with
  | array items =>
    cases fits : index.isIntegral <;>
      simp [select, SqlType.element, SqlType.element?, SqlType.checkIndex, fits, unplaced,
        TypeError.locate]
  | map key value =>
    cases fits : index.promotes key <;>
      simp [select, SqlType.element, SqlType.element?, SqlType.checkIndex, fits, unplaced,
        TypeError.locate]
  | _ => rfl

/-- Navigation takes the last step of a chain from what its base leads to. -/
theorem navigateAt_onto {base : Expr} {step : Expr.Step} {depth : Nat}
    (inside : depth + (step.onto base).height ≤ environment.options.maxDepth + 1) :
    environment.navigateAt depth (step.onto base) =
      environment.proceed (environment.navigateAt (depth + 1) base) step := by
  have root := (step.onto base).height_pos
  have within : ¬ environment.options.maxDepth < depth := by omega
  cases step with
  | field span name =>
    rw [Expr.Step.onto, navigateAt, guarded, if_neg within, proceed]
    congr 2
    funext reached
    rw [advance, Schema.enter_eq]
    cases environment.schema.member reached.type name reached.path <;> rfl
  | index span key =>
    have lower : key.height < (Expr.subscript span base key).height :=
      Expr.height_operand_lt (by simp [Expr.operands])
    rw [Expr.Step.onto] at inside
    have key_typed : environment.inferAt (depth + 1) key = environment.infer key :=
      environment.inferAt_of_height (by omega) (by omega)
    rw [Expr.Step.onto, navigateAt, guarded, if_neg within, proceed]
    congr 2
    funext reached
    simp only [advance, select_eq, key_typed, Expr.Step.suffix, String.append_assoc]

/-- The induction is from the outermost step inwards, as each step stands one level above those
before it. -/
theorem navigateAt_chain {base : Expr} {depth : Nat}
    (inside : depth + (Expr.chain base steps).height ≤ environment.options.maxDepth + 1) :
    environment.navigateAt depth (Expr.chain base steps) =
      steps.foldl environment.proceed (environment.navigateAt (depth + steps.length) base) := by
  induction steps using List.reverseRecOn generalizing depth with
  | nil => rfl
  | append_singleton steps step ih =>
    have chained : Expr.chain base (steps ++ [step]) = step.onto (Expr.chain base steps) := by
      rw [Expr.chain, List.foldl_append]
      rfl
    rw [chained] at inside ⊢
    have lower := step.height_onto (Expr.chain base steps)
    have level : depth + (steps ++ [step]).length = depth + 1 + steps.length := by
      rw [List.length_append, List.length_singleton]
      omega
    rw [navigateAt_onto inside, ih (by omega), level, List.foldl_append]
    rfl

/-- From a column a chain is navigated by a single fold. -/
theorem navigateAt_column_chain {span : Option Span} {qualifier : Option String} {name : String}
    (shallow : (Expr.chain (.column span qualifier name) steps).height ≤
      environment.options.maxDepth) :
    environment.navigateAt 1 (Expr.chain (.column span qualifier name) steps) =
      steps.foldl environment.proceed (environment.reachColumn span qualifier name) := by
  have longer := Expr.height_chain (.column span qualifier name) steps
  have within : ¬ environment.options.maxDepth < 1 + steps.length := by
    rw [Expr.height] at longer
    omega
  rw [navigateAt_chain (by omega), navigateAt, guarded, if_neg within]
  rfl

/-- The type of a chain is what the same fold leads to. -/
theorem infer_column_chain (steps : List Expr.Step) {span : Option Span}
    {qualifier : Option String} {name : String}
    (shallow : (Expr.chain (.column span qualifier name) steps).height ≤
      environment.options.maxDepth) :
    environment.infer (Expr.chain (.column span qualifier name) steps) =
      ResolvedColumn.type <$>
        steps.foldl environment.proceed (environment.reachColumn span qualifier name) := by
  rw [← navigateAt_column_chain shallow, type_navigateAt]
  rfl

theorem locate_locate (error : TypeError) (inner outer : Option Span) :
    (error.locate inner).locate outer = error.locate (inner.or outer) := by
  simp only [TypeError.locate, Option.or_assoc]

theorem foldl_proceed_error (error : TypeError) (steps : List Expr.Step) :
    steps.foldl environment.proceed (.error error) =
      .error (error.locate (steps.findSome? Expr.Step.span)) := by
  induction steps generalizing error with
  | nil => simp [TypeError.locate]
  | cons step rest ih =>
    rw [List.foldl_cons, proceed, error_bind, mapError_error, ih, locate_locate,
      List.findSome?_cons]
    cases step.span <;> rfl

theorem foldl_proceed_eq_error
    (failed : steps.foldl environment.proceed (.ok start) = .error error) :
    ∃ before step after reached inner, steps = before ++ step :: after ∧
      before.foldlM environment.advance start = .ok reached ∧
      environment.advance reached step = .error inner ∧
      error = inner.locate ((step :: after).findSome? Expr.Step.span) := by
  induction steps generalizing start with
  | nil => cases failed
  | cons step rest ih =>
    rw [List.foldl_cons, proceed, ok_bind] at failed
    cases taken : environment.advance start step with
    | ok next =>
      rw [taken] at failed
      obtain ⟨before, later, after, reached, inner, rfl, led, refused, placed⟩ := ih failed
      refine ⟨step :: before, later, after, reached, inner, rfl, ?_, refused, placed⟩
      rw [List.foldlM_cons, taken]
      exact led
    | error inner =>
      rw [taken, mapError_error, foldl_proceed_error] at failed
      refine ⟨[], step, rest, start, inner, rfl, rfl, taken, ?_⟩
      cases failed
      rw [locate_locate, List.findSome?_cons]
      cases step.span <;> rfl

theorem path_of_advance {step : Expr.Step}
    (taken : environment.advance start step = .ok reached) :
    reached.path = start.path ++ step.suffix environment.schema := by
  cases step with
  | field span name =>
    rw [advance, unplaced_eq_ok_iff, Schema.enter_eq, map_eq_ok_iff] at taken
    obtain ⟨type, _, rfl⟩ := taken
    exact String.append_assoc
  | index span key =>
    obtain ⟨index, _, selected⟩ := bind_eq_ok_iff.mp taken
    rw [select_eq] at selected
    obtain ⟨type, _, fits⟩ := bind_eq_ok_iff.mp selected
    obtain ⟨_, _, same⟩ := bind_eq_ok_iff.mp fits
    cases same
    rfl

theorem path_of_foldlM (led : steps.foldlM environment.advance start = .ok reached) :
    reached.path =
      steps.foldl (fun path step => path ++ step.suffix environment.schema) start.path := by
  induction steps generalizing start with
  | nil =>
    cases led
    rfl
  | cons step rest ih =>
    rw [List.foldlM_cons] at led
    obtain ⟨next, taken, later⟩ := bind_eq_ok_iff.mp led
    rw [ih later, path_of_advance taken]
    rfl

/-- A chain fails because its column is not found, or at the first step that leads nowhere. The
error is placed at the column or at this step, or else at the next step that has a position. -/
inductive ChainFails (environment : Environment) (span : Option Span) (column : String)
    (steps : List Expr.Step) : TypeError → Prop where
  | column {cause : Cause} (missing : environment.schema.resolveColumn column = .error cause) :
      ChainFails environment span column steps
        { cause, span := span.or (steps.findSome? Expr.Step.span) }
  | step {before after : List Expr.Step} {step : Expr.Step} {start reached : ResolvedColumn}
      {error : TypeError} (split : steps = before ++ step :: after)
      (found : environment.schema.resolveColumn column = .ok start)
      (led : before.foldlM environment.advance start = .ok reached)
      (shown : reached.path =
        before.foldl (fun path step => path ++ step.suffix environment.schema) start.path)
      (refused : environment.advance reached step = .error error) :
      ChainFails environment span column steps
        (error.locate ((step :: after).findSome? Expr.Step.span))

/-- Navigation composes from left to right. The type of a chain is found by a fold over its steps
that starts from its column and carries the path along, and so is the path by which diagnostics call
the chain. An error is that of the first step that leads nowhere, with the path of the steps before
it. -/
theorem infer_chain (environment : Environment) (span : Option Span) (qualifier : Option String)
    (name : String) (steps : List Expr.Step)
    (shallow : (Expr.chain (.column span qualifier name) steps).height ≤
      environment.options.maxDepth) :
    let chain := Expr.chain (.column span qualifier name) steps
    let walked := steps.foldl environment.proceed (environment.reachColumn span qualifier name)
    environment.infer chain = ResolvedColumn.type <$> walked ∧
    (∀ reached, walked = .ok reached → chain.path environment.schema = reached.path) ∧
    ∀ error, environment.infer chain = .error error →
      environment.ChainFails span (Expr.qualifiedName qualifier name) steps error := by
  intro chain walked
  have navigated : environment.navigateAt 1 chain = walked := navigateAt_column_chain shallow
  have typed : environment.infer chain = ResolvedColumn.type <$> walked :=
    infer_column_chain steps shallow
  refine ⟨typed, ?_, ?_⟩
  · intro reached walks
    rw [← navigated, navigateAt_eq, map_eq_ok_iff] at walks
    obtain ⟨type, _, rfl⟩ := walks
    rfl
  · intro error failed
    rw [typed, map_eq_error_iff] at failed
    simp only [walked, reachColumn] at failed
    cases found : environment.schema.resolveColumn (Expr.qualifiedName qualifier name) with
    | error cause =>
      rw [found] at failed
      cases failed.symm.trans (foldl_proceed_error _ steps)
      exact .column found
    | ok start =>
      rw [found] at failed
      obtain ⟨before, step, after, reached, inner, split, led, refused, rfl⟩ :=
        foldl_proceed_eq_error failed
      exact .step split found led (path_of_foldlM led) refused

/-- `['home']->city->zip`, of which only the last step has a position. -/
def homeCityZip : List Expr.Step :=
  [.index none (.literal none (.string "home")), .field none "city", .field (some ⟨1, 30⟩) "zip"]

/-- The second step finds no `STRUCT`. The third is not taken, but its position is shown. -/
def arrayOfCities : TypeError where
  cause := .notStruct "CITY" "ORDERS.ADDRESSES['home']"
    (.array (.struct [{ name := "CITY", type := .string }]))
  span := some ⟨1, 30⟩

theorem infer_homeCityZip :
    let environment : Environment := ⟨addressColumns, Registry.builtin.toCatalog, {}⟩
    let chain := Expr.chain (.column none (some "orders") "addresses") homeCityZip
    chain.height ≤ environment.options.maxDepth ∧
    environment.infer chain = .error arrayOfCities ∧
    environment.ChainFails none "orders.addresses" homeCityZip arrayOfCities := by
  intro environment chain
  have shallow : chain.height ≤ environment.options.maxDepth := by decide
  have failed : environment.infer chain = .error arrayOfCities := by decide +kernel
  obtain ⟨_, _, fails⟩ :=
    environment.infer_chain none (some "orders") "addresses" homeCityZip shallow
  exact ⟨shallow, failed, fails _ failed⟩

end Environment

end QueryTyping
