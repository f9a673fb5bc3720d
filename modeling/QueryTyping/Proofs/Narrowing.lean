import QueryTyping.Proofs.ColumnRules
import QueryTyping.Proofs.NarrowerArguments
import QueryTyping.Proofs.Row
import QueryTyping.Proofs.Typing
import Mathlib.Data.List.Perm.Basic

/-! Rows whose columns get narrower types. A name means the same column as before, a step into a
`STRUCT` finds the same member, and every node passes the narrower types of its operands on, so that
an expression keeps its type or gets a narrower one. -/

namespace QueryTyping

/-- The same column, with a type that promotes to the other one. -/
structure Field.Narrows (narrow wide : Field) : Prop where
  name : narrow.name = wide.name
  type : narrow.type.promotes wide.type

/-- The same row but for narrower columns. Their order may differ. -/
structure Schema.Narrows (narrow wide : Schema) : Prop where
  name : narrow.name = wide.name
  casePolicy : narrow.casePolicy = wide.casePolicy
  fields : ∃ columns, columns.Perm narrow.fields ∧
    List.Forall₂ Field.Narrows columns wide.fields

/-- The same place in a narrower row. -/
structure ResolvedColumn.Narrows (narrow wide : ResolvedColumn) : Prop where
  path : narrow.path = wide.path
  type : narrow.type.Promotes wide.type

namespace Schema

variable {narrow wide : Schema}

private theorem filter_narrows {columns fields : List Field}
    (each : List.Forall₂ Field.Narrows columns fields) (test : String → Bool) :
    List.Forall₂ Field.Narrows (columns.filter (test ·.name)) (fields.filter (test ·.name)) := by
  apply List.rel_filter _ each
  intro column field narrows
  simp only [narrows.name]

theorem Narrows.filter_nil (narrows : narrow.Narrows wide) (test : String → Bool)
    (nothing : wide.fields.filter (test ·.name) = []) :
    narrow.fields.filter (test ·.name) = [] := by
  obtain ⟨columns, order, each⟩ := narrows.fields
  have kept := filter_narrows each test
  rw [nothing, List.forall₂_nil_right_iff] at kept
  have same := order.filter (test ·.name)
  rw [kept] at same
  exact List.nil_perm.mp same

theorem Narrows.filter_singleton (narrows : narrow.Narrows wide) (test : String → Bool)
    {field : Field} (single : wide.fields.filter (test ·.name) = [field]) :
    ∃ column, narrow.fields.filter (test ·.name) = [column] ∧ column.Narrows field := by
  obtain ⟨columns, order, each⟩ := narrows.fields
  have kept := filter_narrows each test
  rw [single] at kept
  obtain ⟨column, _, here, none, whole⟩ := List.forall₂_cons_right_iff.mp kept
  cases none
  have same := order.filter (test ·.name)
  rw [whole] at same
  exact ⟨column, (List.singleton_perm.mp same).symm, here⟩

/-- A name that means a column means the same one among the narrower columns, and a name that means
none there means none. -/
theorem Narrows.find? (narrows : narrow.Narrows wide) (name : String) :
    Option.Rel Field.Narrows (wide.casePolicy.find? name narrow.fields)
      (wide.casePolicy.find? name wide.fields) := by
  simp only [CasePolicy.find?, ← List.head?_filter]
  rcases wide.filter_agree_cases name with nothing | ⟨field, single⟩
  · rw [nothing, narrows.filter_nil (wide.casePolicy.agree · name) nothing]
    exact .none
  · obtain ⟨column, whole, here⟩ :=
      narrows.filter_singleton (wide.casePolicy.agree · name) single
    rw [single, whole]
    exact .some here

theorem Narrows.column? (narrows : narrow.Narrows wide) {name : String} {found : Option Field}
    (resolved : wide.column? name = .ok found) :
    ∃ column, narrow.column? name = .ok column ∧ Option.Rel Field.Narrows column found := by
  have same := narrows.find? name
  generalize lower : wide.casePolicy.find? name narrow.fields = column at same
  generalize upper : wide.casePolicy.find? name wide.fields = field at same
  rw [← narrows.casePolicy] at lower
  cases same with
  | some here =>
    rw [column?_of_whole upper] at resolved
    cases resolved
    exact ⟨_, column?_of_whole lower, .some here⟩
  | none =>
    rcases parts : Text.segments name with _ | ⟨segment, _ | ⟨next, rest⟩⟩
    · exact absurd parts (Text.segments_ne_nil name)
    · rw [column?_of_single upper parts] at resolved
      rw [column?_of_single lower parts]
      let test (column : String) :=
        (Text.lastSegment? column).any (wide.casePolicy.agree · name)
      have ending : narrow.endingIn name = narrow.fields.filter (test ·.name) := by
        simp only [endingIn, narrows.casePolicy, test]
      split at resolved
      next nothing =>
        cases resolved
        rw [ending, narrows.filter_nil test nothing]
        exact ⟨_, rfl, .none⟩
      next field single =>
        cases resolved
        obtain ⟨column, whole, here⟩ := narrows.filter_singleton test single
        rw [ending, whole]
        exact ⟨_, rfl, .some here⟩
      next => cases resolved
    · rw [column?_of_qualified upper parts] at resolved
      cases resolved
      refine ⟨_, column?_of_qualified lower parts, ?_⟩
      rw [narrows.name, narrows.casePolicy]
      split
      · exact narrows.find? _
      · exact .none

theorem Narrows.follow (narrows : narrow.Narrows wide) {path : String} {low high : SqlType}
    {segments : List String} {found : ResolvedColumn} (promotes : low.Promotes high)
    (followed : wide.follow path high segments = .ok found) :
    ∃ place, narrow.follow path low segments = .ok place ∧ place.Narrows found := by
  cases segments with
  | nil =>
    cases followed
    exact ⟨_, rfl, rfl, promotes⟩
  | cons segment rest =>
    obtain ⟨inner, entered, _⟩ := bind_eq_ok_iff.mp followed
    obtain ⟨fields, _, structured, _⟩ := member_eq_ok_iff.mp entered
    -- Only the `STRUCT` itself promotes to it, so that nothing changes from here on.
    subst structured
    cases promotes
    rw [follow_congr narrows.casePolicy]
    exact ⟨found, followed, rfl, .same found.type⟩

theorem Narrows.columnPath (narrows : narrow.Narrows wide) {column field : Field}
    (same : column.Narrows field) : narrow.columnPath column = wide.columnPath field := by
  simp only [Schema.columnPath, narrows.name, same.name]

theorem Narrows.firstColumn (narrows : narrow.Narrows wide) {name : String}
    {fronts : List (List String × List String)} {found : ResolvedColumn}
    (resolved : wide.firstColumn name fronts = .ok found) :
    ∃ place, narrow.firstColumn name fronts = .ok place ∧ place.Narrows found := by
  induction fronts with
  | nil => cases resolved
  | cons first shorter ih =>
    obtain ⟨front, rest⟩ := first
    obtain ⟨field, whole, later⟩ := bind_eq_ok_iff.mp resolved
    obtain ⟨column, here, same⟩ := narrows.column? whole
    simp only [Schema.firstColumn, here, ok_bind]
    cases same with
    | none => exact ih later
    | some same =>
      have followed := narrows.follow (SqlType.promotes_iff.mp same.type) later
      rw [← narrows.columnPath same] at followed
      exact followed

theorem Narrows.resolveColumn (narrows : narrow.Narrows wide) {name : String}
    {found : ResolvedColumn} (resolved : wide.resolveColumn name = .ok found) :
    ∃ place, narrow.resolveColumn name = .ok place ∧ place.Narrows found :=
  narrows.firstColumn resolved

end Schema

open SqlType (PromoteTo)

theorem ComparisonOp.Compares.narrow {op : ComparisonOp} {first second left right : SqlType}
    (compares : op.Compares left right) (below : first.Promotes left)
    (beside : second.Promotes right) : op.Compares first second := by
  cases compares with
  | numbers numericLeft numericRight =>
    exact .numbers (below.isNumeric_iff.mpr numericLeft) (beside.isNumeric_iff.mpr numericRight)
  | strings =>
    cases below
    cases beside
    exact .strings
  | booleans equality =>
    cases below
    cases beside
    exact .booleans equality

/-- Arrays and maps do not get narrower, and an index or a key may. -/
theorem SqlType.Selects.narrow {low index container element : SqlType}
    (selects : index.Selects container element) (below : low.Promotes index) :
    low.Selects container element := by
  cases selects with
  | items integral =>
    refine .items ?_
    rcases integral with rfl | rfl
    · cases below
      exact .inl rfl
    · cases below
      · exact .inr rfl
      · exact .inl rfl
  | values promotes => exact .values (below.trans promotes)

/-- What is subscripted stays as it is where it gets narrower. -/
theorem SqlType.Selects.container_eq {index low container element : SqlType}
    (selects : index.Selects container element) (below : low.Promotes container) :
    low = container := by
  cases selects <;> cases below <;> rfl

section Rows

variable {narrow wide : Schema} {registry : Registry} {expr : Expr} {type : SqlType}

private theorem exists_narrower {arguments : List Expr} {types : List SqlType}
    (typed : List.Forall₂ (HasType wide registry) arguments types)
    (each : ∀ argument ∈ arguments, ∀ type, HasType wide registry argument type →
      ∃ low, HasType narrow registry argument low ∧ low.Promotes type) :
    ∃ lows, List.Forall₂ (HasType narrow registry) arguments lows ∧ PromoteTo lows types := by
  induction typed with
  | nil => exact ⟨[], .nil, .nil⟩
  | cons first _ ih =>
    obtain ⟨low, here, promotes⟩ := each _ List.mem_cons_self _ first
    obtain ⟨lows, later, below⟩ :=
      ih fun argument member => each argument (List.mem_cons_of_mem _ member)
    exact ⟨low :: lows, .cons here later, .cons promotes below⟩

/-- By the rules of typing, narrower columns give an expression a type that promotes to the one it
has, provided that the functions are steady. -/
theorem HasType.of_narrows (narrows : narrow.Narrows wide)
    (steady : ∀ entry ∈ registry.entries, Steady entry.2)
    (typed : HasType wide registry expr type) :
    ∃ low, HasType narrow registry expr low ∧ low.Promotes type := by
  induction expr using Expr.induction generalizing type with
  | step expr ih =>
    cases typed with
    | literal span value => exact ⟨_, .literal span value, .same _⟩
    | column resolved =>
      obtain ⟨place, found, same⟩ := narrows.resolveColumn resolved
      exact ⟨_, .column found, same.type⟩
    | arithmetic typedLeft typedRight numericLeft numericRight widest =>
      obtain ⟨first, left, below⟩ := ih _ (by simp [Expr.operands]) typedLeft
      obtain ⟨second, right, beside⟩ := ih _ (by simp [Expr.operands]) typedRight
      obtain ⟨low, found, promotes⟩ := widest.narrow (.cons below (.cons beside .nil))
      exact ⟨low, .arithmetic left right (below.isNumeric_iff.mpr numericLeft)
        (beside.isNumeric_iff.mpr numericRight) found, promotes⟩
    | comparison typedLeft typedRight compares =>
      obtain ⟨first, left, below⟩ := ih _ (by simp [Expr.operands]) typedLeft
      obtain ⟨second, right, beside⟩ := ih _ (by simp [Expr.operands]) typedRight
      exact ⟨_, .comparison left right (compares.narrow below beside), .same _⟩
    | like typedValue typedPattern =>
      obtain ⟨first, value, below⟩ := ih _ (by simp [Expr.operands]) typedValue
      obtain ⟨second, pattern, beside⟩ := ih _ (by simp [Expr.operands]) typedPattern
      cases below
      cases beside
      exact ⟨_, .like value pattern, .same _⟩
    | logical count typed =>
      refine ⟨_, .logical count ?_, .same _⟩
      intro operand member
      obtain ⟨low, boolean, below⟩ := ih operand member (typed operand member)
      cases below
      exact boolean
    | call typed entry named first gives =>
      obtain ⟨lows, arguments, below⟩ := exists_narrower typed fun _ member _ => ih _ member
      obtain ⟨earlier, low, found, result, promotes⟩ := (steady _ entry).narrow first gives below
      exact ⟨low, .call arguments entry named found result, promotes⟩
    | fieldAccess typed first =>
      obtain ⟨low, base, below⟩ := ih _ (by simp [Expr.operands]) typed
      cases below
      exact ⟨_, .fieldAccess base (narrows.casePolicy ▸ first), .same _⟩
    | subscript typedBase typedIndex selects =>
      obtain ⟨container, base, below⟩ := ih _ (by simp [Expr.operands]) typedBase
      obtain ⟨key, index, beside⟩ := ih _ (by simp [Expr.operands]) typedIndex
      obtain rfl : container = _ := selects.container_eq below
      exact ⟨_, .subscript base index (selects.narrow beside), .same _⟩
    | subquery single => exact ⟨_, .subquery single, .same _⟩

end Rows

namespace Environment

/-- With the built-in functions, replacing columns by narrower ones never takes the type of an
expression away and never widens it. -/
theorem infer_of_narrows {narrow wide : Schema} (narrows : narrow.Narrows wide)
    (options : InferenceOptions) {expr : Expr} {type : SqlType}
    (typed : (Environment.mk wide Registry.builtin.toCatalog options).infer expr = .ok type) :
    ∃ low, (Environment.mk narrow Registry.builtin.toCatalog options).infer expr = .ok low ∧
      low.promotes type := by
  have inside := height_of_typed _ typed
  have derived := hasType_of_inferAt typed
  obtain ⟨low, found, promotes⟩ := derived.of_narrows narrows Registry.builtin_steady
  exact ⟨low, inferAt_of_hasType found inside, SqlType.promotes_iff.mpr promotes⟩

/-- `PRICES` of type `MAP<INT64, STRUCT<NET FLOAT64>>`, and two numbers. -/
def wideColumns : Schema where
  name := some "ORDERS"
  fields := [
    { name := "AMOUNT", type := .float64 },
    { name := "UNITS", type := .int64 },
    { name := "PRICES", type := .map .int64 (.struct [{ name := "NET", type := .float64 }]) }]
  casePolicy := .insensitive
  folded := by decide
  accepted := by decide

/-- The same columns in another order, with the two numbers of type `INT32`. -/
def narrowColumns : Schema where
  name := some "ORDERS"
  fields := [
    { name := "UNITS", type := .int32, nullable := false },
    { name := "PRICES", type := .map .int64 (.struct [{ name := "NET", type := .float64 }]) },
    { name := "AMOUNT", type := .int32 }]
  casePolicy := .insensitive
  folded := by decide
  accepted := by decide

theorem narrowColumns_narrows : narrowColumns.Narrows wideColumns where
  name := rfl
  casePolicy := rfl
  fields := by
    refine ⟨[{ name := "AMOUNT", type := .int32 },
      { name := "UNITS", type := .int32, nullable := false },
      { name := "PRICES", type := .map .int64 (.struct [{ name := "NET", type := .float64 }]) }],
      by decide, ?_⟩
    exact .cons ⟨rfl, rfl⟩ (.cons ⟨rfl, rfl⟩ (.cons ⟨rfl, rfl⟩ .nil))

/-- `PRICES[ABS(ROUND(AMOUNT * UNITS))]->NET` -/
def netPrice : Expr :=
  let total := .arithmetic none .mul (.column none none "amount")
    (.column none (some "orders") "units")
  let key := .call none "Abs" [.call none "Round" [total]]
  .fieldAccess none (.subscript none (.column none none "prices") key) "net"

/-- In the narrower row `ROUND` takes another overload, and the key is an `INT32` in place of an
`INT64`. -/
theorem netPrice_of_narrowColumns :
    narrowColumns.Narrows wideColumns ∧
    (Environment.mk wideColumns Registry.builtin.toCatalog {}).infer netPrice = .ok .float64 ∧
    ∃ low, (Environment.mk narrowColumns Registry.builtin.toCatalog {}).infer netPrice = .ok low ∧
      low.promotes .float64 := by
  have typed : (Environment.mk wideColumns Registry.builtin.toCatalog {}).infer netPrice =
      .ok .float64 := by decide +kernel
  exact ⟨narrowColumns_narrows, typed, infer_of_narrows narrowColumns_narrows {} typed⟩

end Environment

end QueryTyping
