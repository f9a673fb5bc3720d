import QueryTyping.Proofs.ExprFolding
import QueryTyping.Proofs.Provenance
import QueryTyping.Proofs.Recasing

/-! A row that ignores case is a row of upper-case names. Both are accepted or refused together, and
the one types an expression as the other types its upper-case copy, because all types that come up
on the way have upper-case names inside. -/

namespace QueryTyping

section Check

variable {reader policy : CasePolicy}

mutual

/-- Folded names are checked alike by two policies of which one reads for the other. -/
theorem Field.checkAll_reads (reads : reader.Reads policy) {path : String} {earlier : List String}
    (seen : ∀ name ∈ earlier, policy.fold name = name) :
    (fields : List Field) → Field.renameAll policy.fold fields = fields →
      Field.checkAll reader path earlier fields = Field.checkAll policy path earlier fields
  | [], _ => rfl
  | ⟨name, type, nullable⟩ :: rest, folded => by
    obtain ⟨here, later⟩ := List.cons.inj folded
    have label : policy.fold name = name := congrArg Field.name here
    have repeated : earlier.any (reader.agree · name) = earlier.any (policy.agree · name) := by
      rw [Bool.eq_iff_iff, List.any_eq_true, List.any_eq_true]
      have agree (other : String) (member : other ∈ earlier) :
          reader.agree other name = policy.agree other name := by
        have same := reads.agree (.inr (seen other member)) name
        rwa [label] at same
      exact exists_congr fun other => and_congr_right fun member => by rw [agree other member]
    have known : ∀ other ∈ name :: earlier, policy.fold other = other :=
      List.forall_mem_cons.mpr ⟨label, seen⟩
    simp only [Field.checkAll, repeated, Field.checkAll_reads reads known rest later,
      SqlType.check_reads reads type (congrArg Field.type here)]

theorem SqlType.check_reads (reads : reader.Reads policy) {path : String} :
    (type : SqlType) → type.rename policy.fold = type →
      type.check reader path = type.check policy path
  | .struct fields, folded => by
    rw [SqlType.check, SqlType.check]
    exact Field.checkAll_reads reads (by simp) fields (SqlType.struct.inj folded)
  | .array items, folded => by
    rw [SqlType.check, SqlType.check]
    exact SqlType.check_reads reads items (SqlType.array.inj folded)
  | .map key value, folded => by
    obtain ⟨keys, values⟩ := SqlType.map.inj folded
    rw [SqlType.check, SqlType.check, SqlType.check_reads reads key keys,
      SqlType.check_reads reads value values]
  | .int32, _ | .int64, _ | .float64, _ | .string, _ | .boolean, _ => rfl

end

end Check

namespace Schema

/-- The error of a refused row is that of its upper-case copy. -/
theorem build_upper_error_iff {relation : Option String} {fields : List Field}
    {error : SchemaError} :
    build (relation.map Text.upper) (Field.renameAll Text.upper fields) .sensitive = .error error ↔
      build relation fields .insensitive = .error error := by
  have folded : Field.renameAll CasePolicy.insensitive.fold (Field.renameAll Text.upper fields) =
      Field.renameAll Text.upper fields := Field.renameAll_renameAll Text.upper_upper fields
  have label : (relation.map Text.upper).map CasePolicy.sensitive.fold = relation.map Text.upper :=
    Option.map_id'
  rw [build_eq_error_iff, build_eq_error_iff, Field.renameAll_same, label,
    Field.checkAll_reads (.inr rfl) (by simp) _ folded]
  rfl

/-- The rows of unquoted names are those of upper-case names, read letter by letter. -/
theorem build_upper (relation : Option String) (fields : List Field) :
    (fun schema : Schema => (schema.name, schema.fields)) <$> build relation fields .insensitive =
      (fun schema : Schema => (schema.name, schema.fields)) <$>
        build (relation.map Text.upper) (Field.renameAll Text.upper fields) .sensitive := by
  cases built : build relation fields .insensitive with
  | error error => rw [build_upper_error_iff.mpr built]
  | ok schema =>
    cases twin : build (relation.map Text.upper) (Field.renameAll Text.upper fields) .sensitive with
    | error error => cases built.symm.trans (build_upper_error_iff.mp twin)
    | ok upper =>
      obtain ⟨name, row, _⟩ := build_eq_ok_iff.mp built
      obtain ⟨label, columns, _⟩ := build_eq_ok_iff.mp twin
      rw [Field.renameAll_same] at columns
      have named : upper.name = schema.name :=
        label.trans (Option.map_id'.trans name.symm)
      have columned : upper.fields = schema.fields := columns.trans row.symm
      simp only [Functor.map, Except.map, named, columned]

end Schema

namespace Environment

variable {expr : Expr} {type : SqlType}

/-- Where case is ignored in the row and in all subqueries, inferred types have upper-case names. -/
theorem rename_of_inferAt {environment : Environment}
    (ignores : environment.schema.casePolicy = .insensitive) (plain : environment.catalog.Plain)
    (fixed : ∀ type, environment.catalog.Fixes type → type.rename Text.upper = type)
    (rows : ∀ row ∈ expr.subqueries, row.casePolicy = .insensitive) {depth : Nat}
    (inferred : environment.inferAt depth expr = .ok type) : type.rename Text.upper = type := by
  have columns (row : Schema) (policy : row.casePolicy = .insensitive) :
      ∀ field ∈ row.fields, field.type.rename Text.upper = field.type := by
    have folded := row.folded.2
    rw [policy] at folded
    exact fun field member => (Field.renamed_of_mem folded member).2
  by_cases composite : type.isComposite
  · obtain ⟨given, source, inside⟩ := part_of_inferAt plain inferred composite
    apply inside.rename_eq
    cases source with
    | column member => exact columns _ ignores _ member
    | subquery listed member => exact columns _ (rows _ listed) _ member
    | fixed fixes => exact fixed _ fixes
  · exact SqlType.rename_of_scalar composite

theorem inferAt_upper {free strict : Schema} (reads : strict.Reads free)
    (ignores : free.casePolicy = .insensitive) {catalog : Catalog} (plain : catalog.Plain)
    (fixed : ∀ type, catalog.Fixes type → type.rename Text.upper = type)
    (rows : ∀ row ∈ expr.subqueries, row.casePolicy = .insensitive) (options : InferenceOptions)
    (depth : Nat) :
    (Environment.mk free catalog options).inferAt depth expr =
      (Environment.mk strict catalog options).inferAt depth (expr.folded free.casePolicy) := by
  have fold : free.fold = Text.upper := by
    funext name
    rw [Schema.fold, ignores]
    rfl
  induction expr using Expr.induction generalizing depth with
  | step expr ih =>
    have below (operand : Expr) (visited : operand ∈ expr.visited) :
        ∀ row ∈ operand.subqueries, row.casePolicy = .insensitive := fun row listed =>
      rows row (Expr.subqueries_of_operand (expr.visited_subset visited) listed)
    refine @inferAt_folded_of_operands ⟨free, catalog, options⟩ ⟨strict, catalog, options⟩ reads
      rfl rfl expr depth ?_ ?_
    · intro operand visited
      exact ih operand (expr.visited_subset visited) (below operand visited) (depth + 1)
    · right
      intro operand visited type inferred
      rw [fold]
      exact rename_of_inferAt ignores plain fixed (below operand visited) inferred

/-- Ignoring case is the same as writing everything in upper case. A row that ignores case is
accepted exactly when its upper-case copy is, and refused with the same error. An expression has the
same type or error over it as the upper-case expression has over the copy, provided that functions
compute no results of their own and fix none with lower-case names, and that the subqueries ignore
case as well. -/
theorem infer_of_upper_case (relation : Option String) (fields : List Field) :
    (fun schema : Schema => (schema.name, schema.fields)) <$>
        Schema.build relation fields .insensitive =
      (fun schema : Schema => (schema.name, schema.fields)) <$>
        Schema.build (relation.map Text.upper) (Field.renameAll Text.upper fields) .sensitive ∧
    ∀ free strict, Schema.build relation fields .insensitive = .ok free →
      Schema.build (relation.map Text.upper) (Field.renameAll Text.upper fields) .sensitive =
        .ok strict →
      ∀ catalog : Catalog, catalog.Plain →
        (∀ type, catalog.Fixes type → type.rename Text.upper = type) →
        ∀ options expr, (∀ row ∈ expr.subqueries, row.casePolicy = .insensitive) →
          (Environment.mk free catalog options).infer expr =
            (Environment.mk strict catalog options).infer
              (expr.rename ⟨Text.upper, Text.upper⟩) := by
  have same := Schema.build_upper relation fields
  refine ⟨same, ?_⟩
  intro free strict built twin catalog plain fixed options expr rows
  rw [built, twin] at same
  obtain ⟨names, columns⟩ := Prod.mk.inj (Except.ok.inj same)
  have ignores : free.casePolicy = .insensitive := (Schema.build_eq_ok_iff.mp built).2.2
  have letterwise : strict.casePolicy = .sensitive := (Schema.build_eq_ok_iff.mp twin).2.2
  have reads : strict.Reads free := ⟨names.symm, columns.symm, .inr letterwise⟩
  have inferred : (Environment.mk free catalog options).inferAt 1 expr =
      (Environment.mk strict catalog options).inferAt 1 (expr.folded free.casePolicy) :=
    inferAt_upper reads ignores plain fixed rows options 1
  rw [ignores] at inferred
  exact inferred

/-- The row of `lowerColumns`, its names in upper case and compared letter by letter. -/
def strictColumns : Schema where
  name := some "ORDERS"
  fields := addressColumns.fields
  casePolicy := .sensitive
  folded := by decide
  accepted := by decide

/-- `IfNull(orders.addresses['x'], (SELECT HOMES))[0]->zip` -/
def lowerHomeZip : Expr :=
  let address := .subscript none (.column none (some "orders") "addresses")
    (.literal none (.string "x"))
  let known := .call none "IfNull" [address, .subquery none homes]
  .fieldAccess (some ⟨1, 2⟩) (.subscript none known (.literal none (.integer 0))) "zip"

def missingHomeZip : TypeError where
  cause := .fieldNotFound "ZIP" "IFNULL(ORDERS.ADDRESSES['x'], (SELECT HOMES))[0]"
  span := some ⟨1, 2⟩

theorem lowerHomeZip_of_upper_case :
    Schema.build (some "orders") lowerColumns .insensitive = .ok addressColumns ∧
    Schema.build (some "ORDERS") (Field.renameAll Text.upper lowerColumns) .sensitive =
      .ok strictColumns ∧
    Registry.builtin.toCatalog.Plain ∧
    (∀ type, Registry.builtin.toCatalog.Fixes type → type.rename Text.upper = type) ∧
    (∀ row ∈ lowerHomeZip.subqueries, row.casePolicy = .insensitive) ∧
    (Environment.mk addressColumns Registry.builtin.toCatalog {}).infer lowerHomeZip =
      .error missingHomeZip ∧
    (Environment.mk strictColumns Registry.builtin.toCatalog {}).infer
      (lowerHomeZip.rename ⟨Text.upper, Text.upper⟩) = .error missingHomeZip := by
  have built : Schema.build (some "orders") lowerColumns .insensitive = .ok addressColumns := by
    rfl
  have twin : Schema.build (some "ORDERS") (Field.renameAll Text.upper lowerColumns) .sensitive =
      .ok strictColumns := by rfl
  have plain := (Registry.builtin_wellFormed .insensitive).plain
  have fixed : ∀ type, Registry.builtin.toCatalog.Fixes type → type.rename Text.upper = type :=
    fun type fixes => SqlType.rename_of_scalar (Registry.builtin_fixes_scalar fixes)
  have rows : ∀ row ∈ lowerHomeZip.subqueries, row.casePolicy = .insensitive := by decide
  have failed : (Environment.mk addressColumns Registry.builtin.toCatalog {}).infer lowerHomeZip =
      .error missingHomeZip := by decide +kernel
  have same := (infer_of_upper_case (some "orders") lowerColumns).2 _ _ built twin
    Registry.builtin.toCatalog plain fixed {} lowerHomeZip rows
  exact ⟨built, twin, plain, fixed, rows, failed, same.symm.trans failed⟩

end Environment

end QueryTyping
