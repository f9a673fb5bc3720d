import QueryTyping.Function.Builtin
import QueryTyping.Proofs.ExprFolding
import QueryTyping.Proofs.Row
import Mathlib.Data.Option.Basic

/-! Writing names in other letter cases. When a row ignores case, it does not matter in which case
its own names were given, nor in which case an expression uses them: the types are the same, and so
are the errors with all that they show. -/

namespace QueryTyping

/-- The same character, or the two cases of one ASCII letter. -/
def Text.SameLetter (c d : Char) : Prop :=
  c = d ∨ c.toUpper = d ∨ c = d.toUpper

def Text.Recased (first second : String) : Prop :=
  List.Forall₂ SameLetter first.toList second.toList

theorem Text.sameLetter_iff {c d : Char} : SameLetter c d ↔ c.toUpper = d.toUpper := by
  simp only [SameLetter, ← Char.toNat_inj, toNat_toUpper]
  split <;> split <;> omega

theorem Text.recased_iff {first second : String} :
    Recased first second ↔ upper first = upper second := by
  have letters : SameLetter = fun c d => c.toUpper = d.toUpper :=
    funext fun c => funext fun d => propext sameLetter_iff
  rw [upper, upper, String.ofList_inj, ← List.forall₂_eq_eq_eq, List.forall₂_map_left_iff,
    List.forall₂_map_right_iff, Recased, letters]

instance (first second : String) : Decidable (Text.Recased first second) :=
  decidable_of_iff _ Text.recased_iff.symm

theorem Text.Recased.map_upper {first second : Option String}
    (recased : Option.Rel Recased first second) : first.map Text.upper = second.map Text.upper := by
  cases recased with
  | none => rfl
  | some names => exact congrArg some (recased_iff.mp names)

mutual

/-- Types that differ at most in the letter cases of their field names. -/
inductive SqlType.Recased : SqlType → SqlType → Prop where
  | refl (type : SqlType) : SqlType.Recased type type
  | array {first second : SqlType} (items : first.Recased second) :
      SqlType.Recased (.array first) (.array second)
  | map {first second value content : SqlType} (keys : first.Recased second)
      (values : value.Recased content) :
      SqlType.Recased (.map first value) (.map second content)
  | struct {fields others : List Field} (members : Field.AllRecased fields others) :
      SqlType.Recased (.struct fields) (.struct others)

inductive Field.AllRecased : List Field → List Field → Prop where
  | nil : Field.AllRecased [] []
  | cons {name other : String} {type shape : SqlType} {nullable : Bool} {rest others : List Field}
      (names : Text.Recased name other) (types : type.Recased shape)
      (behind : Field.AllRecased rest others) :
      Field.AllRecased (⟨name, type, nullable⟩ :: rest) (⟨other, shape, nullable⟩ :: others)

end

mutual

theorem SqlType.Recased.rename {first second : SqlType} :
    first.Recased second → first.rename Text.upper = second.rename Text.upper
  | .refl _ => rfl
  | .array items => by rw [SqlType.rename, SqlType.rename, items.rename]
  | .map keys values => by rw [SqlType.rename, SqlType.rename, keys.rename, values.rename]
  | .struct members => by rw [SqlType.rename, SqlType.rename, members.rename]

theorem Field.AllRecased.rename {fields others : List Field} :
    Field.AllRecased fields others →
      Field.renameAll Text.upper fields = Field.renameAll Text.upper others
  | .nil => rfl
  | .cons names types behind => by
    rw [Field.renameAll, Field.renameAll, Text.recased_iff.mp names, types.rename, behind.rename]

end

/-- Expressions that differ at most in the letter cases of columns, qualifiers, fields and
functions. -/
inductive Expr.Recased : Expr → Expr → Prop where
  | literal (span : Option Span) (value : Literal) :
      Recased (.literal span value) (.literal span value)
  | column (span : Option Span) {qualifier relation : Option String} {name other : String}
      (qualifiers : Option.Rel Text.Recased qualifier relation)
      (names : Text.Recased name other) :
      Recased (.column span qualifier name) (.column span relation other)
  | arithmetic (span : Option Span) (op : ArithmeticOp) {left right first second : Expr}
      (lefts : left.Recased first) (rights : right.Recased second) :
      Recased (.arithmetic span op left right) (.arithmetic span op first second)
  | comparison (span : Option Span) (op : ComparisonOp) {left right first second : Expr}
      (lefts : left.Recased first) (rights : right.Recased second) :
      Recased (.comparison span op left right) (.comparison span op first second)
  | like (span : Option Span) (op : LikeOp) {value pattern first second : Expr}
      (values : value.Recased first) (patterns : pattern.Recased second) :
      Recased (.like span op value pattern) (.like span op first second)
  | logical (span : Option Span) (op : LogicalOp) {operands others : List Expr}
      (each : List.Forall₂ Expr.Recased operands others) :
      Recased (.logical span op operands) (.logical span op others)
  | call (span : Option Span) {function other : String} {arguments others : List Expr}
      (names : Text.Recased function other)
      (each : List.Forall₂ Expr.Recased arguments others) :
      Recased (.call span function arguments) (.call span other others)
  | fieldAccess (span : Option Span) {base other : Expr} {field member : String}
      (bases : base.Recased other) (names : Text.Recased field member) :
      Recased (.fieldAccess span base field) (.fieldAccess span other member)
  | subscript (span : Option Span) {base index other key : Expr} (bases : base.Recased other)
      (keys : index.Recased key) : Recased (.subscript span base index) (.subscript span other key)
  | subquery (span : Option Span) (schema : Schema) :
      Recased (.subquery span schema) (.subquery span schema)

namespace Expr

private theorem map_eq_of_forall₂ {exprs others : List Expr} {related : Expr → Expr → Prop}
    {change : Expr → Expr} (each : List.Forall₂ related exprs others)
    (same : ∀ expr ∈ exprs, ∀ other, related expr other → change expr = change other) :
    exprs.map change = others.map change := by
  induction each with
  | nil => rfl
  | cons first _ ih =>
    rw [List.map_cons, List.map_cons, same _ List.mem_cons_self _ first,
      ih fun expr member => same expr (List.mem_cons_of_mem _ member)]

/-- Folding takes all differences away. -/
theorem Recased.rename_upper {first second : Expr} (recased : first.Recased second) :
    first.rename ⟨Text.upper, Text.upper⟩ = second.rename ⟨Text.upper, Text.upper⟩ := by
  induction first using Expr.induction generalizing second with
  | step expr ih =>
    cases recased with
    | literal | subquery => rfl
    | column span qualifiers names =>
      simp only [rename, Text.Recased.map_upper qualifiers, Text.recased_iff.mp names]
    | arithmetic _ _ lefts rights | comparison _ _ lefts rights | like _ _ lefts rights
    | subscript _ lefts rights =>
      rw [rename, rename, ih _ (by simp [operands]) lefts, ih _ (by simp [operands]) rights]
    | fieldAccess span bases names =>
      have based := ih _ (by simp [operands]) bases
      simp only [rename, based, Text.recased_iff.mp names]
    | logical span op each =>
      have all := map_eq_of_forall₂ each fun expr member _ => ih expr member
      rw [rename, rename, renameAll_eq_map, renameAll_eq_map, all]
    | call span names each =>
      have all := map_eq_of_forall₂ each fun expr member _ => ih expr member
      simp only [rename, renameAll_eq_map, all, Text.recased_iff.mp names]

end Expr

namespace Environment

/-- Letter cases are without meaning to a row that ignores them. Neither the case in which the row
was given nor that in which an expression is written changes any type or error. -/
theorem infer_of_recased {relation other : Option String} {fields others : List Field}
    (names : Option.Rel Text.Recased relation other) (rows : Field.AllRecased fields others) :
    Schema.build relation fields .insensitive = Schema.build other others .insensitive ∧
    ∀ schema, Schema.build relation fields .insensitive = .ok schema →
      ∀ catalog options first second, Expr.Recased first second →
        (Environment.mk schema catalog options).infer first =
          (Environment.mk schema catalog options).infer second := by
  refine ⟨Schema.build_congr (Text.Recased.map_upper names) rows.rename, ?_⟩
  intro schema built catalog options first second recased
  have policy : schema.casePolicy = .insensitive := (Schema.build_eq_ok_iff.mp built).2.2
  have folded : first.folded schema.casePolicy = second.folded schema.casePolicy := by
    rw [policy]
    exact recased.rename_upper
  have one := inferAt_folded ⟨schema, catalog, options⟩ 1 first
  have two := inferAt_folded ⟨schema, catalog, options⟩ 1 second
  rw [infer, infer, ← one, ← two, folded]

def lowerColumns : List Field := [
  { name := "id", type := .int64, nullable := false },
  { name := "lines.total", type := .float64 },
  { name := "addresses",
    type := .map .string (.array (.struct [{ name := "city", type := .string }])) }]

def mixedColumns : List Field := [
  { name := "Id", type := .int64, nullable := false },
  { name := "Lines.Total", type := .float64 },
  { name := "Addresses",
    type := .map .string (.array (.struct [{ name := "City", type := .string }])) }]

/-- `orders.addresses[ucase('home')][0]->zip` -/
def lowerZip : Expr :=
  let key := .call none "ucase" [.literal none (.string "home")]
  let address := .subscript none (.column none (some "orders") "addresses") key
  .fieldAccess (some ⟨1, 2⟩) (.subscript none address (.literal none (.integer 0))) "zip"

def mixedZip : Expr :=
  let key := .call none "Ucase" [.literal none (.string "home")]
  let address := .subscript none (.column none (some "Orders") "ADDRESSES") key
  .fieldAccess (some ⟨1, 2⟩) (.subscript none address (.literal none (.integer 0))) "Zip"

def addressColumns : Schema where
  name := some "ORDERS"
  fields := [
    { name := "ID", type := .int64, nullable := false },
    { name := "LINES.TOTAL", type := .float64 },
    { name := "ADDRESSES",
      type := .map .string (.array (.struct [{ name := "CITY", type := .string }])) }]
  casePolicy := .insensitive
  folded := by decide
  accepted := by decide

theorem mixedColumns_recased : Field.AllRecased lowerColumns mixedColumns := by
  have city : SqlType.Recased
      (.map .string (.array (.struct [{ name := "city", type := .string }])))
      (.map .string (.array (.struct [{ name := "City", type := .string }]))) :=
    .map (.refl _) (.array (.struct (.cons (by decide) (.refl _) .nil)))
  exact .cons (by decide) (.refl _) (.cons (by decide) (.refl _) (.cons (by decide) city .nil))

theorem mixedZip_recased : lowerZip.Recased mixedZip := by
  have key : Expr.Recased (.call none "ucase" [.literal none (.string "home")])
      (.call none "Ucase" [.literal none (.string "home")]) :=
    .call none (by decide) (.cons (.literal none _) .nil)
  have column : Expr.Recased (.column none (some "orders") "addresses")
      (.column none (some "Orders") "ADDRESSES") :=
    .column none (.some (by decide)) (by decide)
  have address := Expr.Recased.subscript none column key
  exact .fieldAccess _ (.subscript none address (.literal none _)) (by decide)

/-- The diagnostic shows upper-case names, whatever the row and the expression were given in. -/
def missingZip : TypeError where
  cause := .fieldNotFound "ZIP" "ORDERS.ADDRESSES[UCASE('home')][0]"
  span := some ⟨1, 2⟩

theorem infer_of_mixedZip :
    Schema.build (some "orders") lowerColumns .insensitive = .ok addressColumns ∧
    Schema.build (some "Orders") mixedColumns .insensitive = .ok addressColumns ∧
    (Environment.mk addressColumns Registry.builtin.toCatalog {}).infer lowerZip =
      .error missingZip ∧
    (Environment.mk addressColumns Registry.builtin.toCatalog {}).infer mixedZip =
      .error missingZip := by
  have built : Schema.build (some "orders") lowerColumns .insensitive = .ok addressColumns := by
    rfl
  have failed : (Environment.mk addressColumns Registry.builtin.toCatalog {}).infer lowerZip =
      .error missingZip := by decide +kernel
  have names : Option.Rel Text.Recased (some "orders") (some "Orders") := .some (by decide)
  obtain ⟨same, typed⟩ := infer_of_recased names mixedColumns_recased
  have inferred := typed _ built Registry.builtin.toCatalog {} _ _ mixedZip_recased
  exact ⟨built, same.symm.trans built, failed, inferred.symm.trans failed⟩

end Environment

end QueryTyping
