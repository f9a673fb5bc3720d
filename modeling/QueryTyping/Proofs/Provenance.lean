import QueryTyping.Proofs.NarrowerArguments
import QueryTyping.Proofs.Nesting
import QueryTyping.Proofs.Parts

/-! Where inferred types come from. No rule makes a composite type of its own: each takes one over
from an operand, goes into it, or gets it from a column, from the row of a subquery or from a
function with a fixed result. So the names inside an inferred type are as good as theirs. -/

namespace QueryTyping

namespace Expr

mutual

/-- The rows of all subqueries in an expression, from left to right. -/
def subqueries : Expr → List Schema
  | literal .. | column .. => []
  | arithmetic _ _ left right | comparison _ _ left right => left.subqueries ++ right.subqueries
  | like _ _ value pattern => value.subqueries ++ pattern.subqueries
  | logical _ _ operands => subqueriesAll operands
  | call _ _ arguments => subqueriesAll arguments
  | fieldAccess _ base _ => base.subqueries
  | subscript _ base index => base.subqueries ++ index.subqueries
  | subquery _ schema => [schema]

def subqueriesAll : List Expr → List Schema
  | [] => []
  | expr :: rest => expr.subqueries ++ subqueriesAll rest

end

private theorem subqueriesAll_eq (exprs : List Expr) :
    subqueriesAll exprs = exprs.flatMap subqueries := by
  induction exprs with
  | nil => rfl
  | cons expr rest ih => rw [subqueriesAll, ih, List.flatMap_cons]

theorem subqueries_of_operand {expr operand : Expr} (member : operand ∈ expr.operands) :
    operand.subqueries ⊆ expr.subqueries := by
  intro row inside
  cases expr with
  | literal | column | subquery => cases member
  | logical _ _ operands | call _ _ operands =>
    rw [subqueries, subqueriesAll_eq, List.mem_flatMap]
    exact ⟨operand, member, inside⟩
  | fieldAccess _ base _ =>
    obtain rfl : operand = base := List.mem_singleton.mp member
    exact inside
  | arithmetic | comparison | like | subscript =>
    simp only [operands, List.mem_cons, List.not_mem_nil, or_false] at member
    rw [subqueries, List.mem_append]
    rcases member with rfl | rfl
    · exact .inl inside
    · exact .inr inside

end Expr

/-- The result that a rule has for all arguments, if it is fixed. -/
def ReturnRule.fixed? : ReturnRule → Option SqlType
  | fixed type => some type
  | _ => none

namespace Catalog

/-- No function that can be called computes its result by a rule of its own. -/
def Plain (catalog : Catalog) : Prop :=
  ∀ function arguments signature, catalog.lookup function arguments = some signature →
    ¬ signature.returns.isCustom

/-- Some function always has this result. -/
def Fixes (catalog : Catalog) (type : SqlType) : Prop :=
  ∃ function arguments signature, catalog.lookup function arguments = some signature ∧
    signature.returns.fixed? = some type

structure WellFormed (catalog : Catalog) (policy : CasePolicy) : Prop where
  plain : catalog.Plain
  fixed : ∀ type, catalog.Fixes type → type.WellFormed policy

end Catalog

namespace Registry

theorem mem_of_lookup {registry : Registry} {function : String} {arguments : List SqlType}
    {signature : Signature} (found : registry.lookup function arguments = some signature) :
    ∃ entry ∈ registry.entries, signature ∈ entry.2 := by
  have member := List.mem_of_find?_eq_some found
  unfold signatures at member
  cases entry : registry.entries.lookup (Text.upper function) with
  | none => simp [entry] at member
  | some overloads =>
    rw [entry, Option.getD_some] at member
    exact ⟨_, lookup_eq_some_iff.mp entry, member⟩

theorem plain_of_entries {registry : Registry}
    (known : ∀ entry ∈ registry.entries, ∀ signature ∈ entry.2, ¬ signature.returns.isCustom) :
    registry.toCatalog.Plain := by
  intro function arguments signature found
  obtain ⟨entry, listed, member⟩ := mem_of_lookup found
  exact known entry listed signature member

theorem exists_of_fixes {registry : Registry} {type : SqlType}
    (fixes : registry.toCatalog.Fixes type) :
    ∃ entry ∈ registry.entries, ∃ signature ∈ entry.2, signature.returns.fixed? = some type := by
  obtain ⟨function, arguments, signature, found, fixed⟩ := fixes
  obtain ⟨entry, listed, member⟩ := mem_of_lookup found
  exact ⟨entry, listed, signature, member, fixed⟩

/-- The built-in functions fix no results with names inside. -/
theorem builtin_fixes_scalar {type : SqlType} (fixes : Registry.builtin.toCatalog.Fixes type) :
    ¬ type.isComposite := by
  have scalar : ∀ entry ∈ Registry.builtin.entries, ∀ signature ∈ entry.2,
      ∀ type ∈ signature.returns.fixed?, ¬ type.isComposite := by decide +kernel
  obtain ⟨entry, listed, signature, member, fixed⟩ := exists_of_fixes fixes
  exact scalar entry listed signature member type fixed

theorem builtin_wellFormed (policy : CasePolicy) :
    Registry.builtin.toCatalog.WellFormed policy := by
  constructor
  · exact plain_of_entries fun entry listed => (builtin_steady entry listed).computed
  · intro type fixes fields inside
    exact absurd (inside.isComposite rfl) (builtin_fixes_scalar fixes)

end Registry

theorem SqlType.not_composite_of_numeric {type : SqlType} (numeric : type.isNumeric) :
    ¬ type.isComposite := by
  cases type <;> simp [isNumeric, isComposite] at numeric ⊢

/-- A rule of a signature hands a composite type on or has it fixed. -/
theorem ReturnRule.Gives.part {rule : ReturnRule} {arguments : List SqlType} {type : SqlType}
    (gives : rule.Gives arguments type) (computed : ¬ rule.isCustom)
    (composite : type.isComposite) :
    rule.fixed? = some type ∨ ∃ argument ∈ arguments, type.Part argument := by
  cases gives with
  | fixed => exact .inl rfl
  | sameAsArgument found => exact .inr ⟨type, List.mem_of_getElem? found, .whole⟩
  | widestNumeric widest =>
    exact absurd composite (SqlType.not_composite_of_numeric widest.numeric)
  | items found => exact .inr ⟨_, List.mem_of_getElem? found, .items .whole⟩
  | values found => exact .inr ⟨_, List.mem_of_getElem? found, .value .whole⟩
  | custom => exact absurd rfl computed

namespace Environment

variable {environment : Environment} {expr : Expr} {type : SqlType}

/-- The types that an expression starts from: those of the columns, those in the rows of its
subqueries, and those that functions fix. -/
inductive Given (environment : Environment) (expr : Expr) : SqlType → Prop where
  | column {field : Field} (member : field ∈ environment.schema.fields) :
      Given environment expr field.type
  | subquery {row : Schema} {field : Field} (inside : row ∈ expr.subqueries)
      (member : field ∈ row.fields) : Given environment expr field.type
  | fixed {type : SqlType} (fixes : environment.catalog.Fixes type) : Given environment expr type

theorem Given.of_operand {operand : Expr} (given : environment.Given operand type)
    (member : operand ∈ expr.operands) : environment.Given expr type := by
  cases given with
  | column listed => exact .column listed
  | subquery inside listed => exact .subquery (Expr.subqueries_of_operand member inside) listed
  | fixed fixes => exact .fixed fixes

private theorem resolve_part {catalog : Catalog} {function : String} {arguments : List SqlType}
    (plain : catalog.Plain) (resolved : catalog.resolve function arguments = .ok type)
    (composite : type.isComposite) :
    catalog.Fixes type ∨ ∃ argument ∈ arguments, type.Part argument := by
  rcases catalog.resolve_cases function arguments with
    ⟨signature, _, found, same⟩ | ⟨error, failed, _⟩
  · have gives := Signature.returnType_eq_ok_iff.mp (same.symm.trans resolved)
    rcases gives.part (plain _ _ _ found) composite with fixed | taken
    · exact .inl ⟨_, _, signature, found, fixed⟩
    · exact .inr taken
  · cases failed.symm.trans resolved

/-- A node takes a composite type over from an operand, or it is given. -/
theorem conclude_part (plain : environment.catalog.Plain) {types : List SqlType}
    (concluded : environment.conclude expr types = .ok type) (composite : type.isComposite) :
    (∃ operand ∈ types, type.Part operand) ∨
      ∃ given, environment.Given expr given ∧ type.Part given := by
  unfold conclude at concluded
  split at concluded
  next value =>
    cases concluded
    cases value <;> cases composite
  next qualifier name =>
    rw [unplaced_eq_ok_iff, map_eq_ok_iff] at concluded
    obtain ⟨found, resolved, rfl⟩ := concluded
    obtain ⟨field, member, inside⟩ := Schema.resolveColumn_part resolved
    exact .inr ⟨field.type, .column member, inside⟩
  next =>
    rw [unplaced_eq_ok_iff, ArithmeticOp.result_eq_ok_iff] at concluded
    exact absurd composite (SqlType.not_composite_of_numeric concluded.2.2.numeric)
  next =>
    rw [unplaced_eq_ok_iff, ComparisonOp.result_eq_ok_iff] at concluded
    obtain ⟨_, rfl⟩ := concluded
    cases composite
  next =>
    rw [unplaced_eq_ok_iff, LikeOp.result_eq_ok_iff] at concluded
    obtain ⟨_, _, rfl⟩ := concluded
    cases composite
  next =>
    split at concluded
    · rw [unplaced_eq_ok_iff, LogicalOp.result_eq_ok_iff] at concluded
      obtain ⟨_, rfl⟩ := concluded
      cases composite
    · cases concluded
  next =>
    rcases resolve_part plain concluded composite with fixes | taken
    · exact .inr ⟨type, .fixed fixes, .whole⟩
    · exact .inl taken
  next container =>
    rw [unplaced_eq_ok_iff] at concluded
    exact .inl ⟨container, List.mem_cons_self, Schema.member_part concluded⟩
  next container key =>
    simp only [bind_eq_ok_iff, unplaced_eq_ok_iff, mapError_eq_ok_iff] at concluded
    obtain ⟨element, selected, _, fits, same⟩ := concluded
    cases same
    have selects := SqlType.selects_iff.mp ⟨selected, fits⟩
    exact .inl ⟨container, List.mem_cons_self, selects.part⟩
  next row =>
    rw [unplaced_eq_ok_iff, Schema.scalarType_eq_ok_iff] at concluded
    obtain ⟨column, single, rfl⟩ := concluded
    have inside : row ∈ (Expr.subquery ‹_› row).subqueries := List.mem_cons_self
    exact .inr ⟨column.type, .subquery inside (by simp [single]), .whole⟩
  next => cases concluded

/-- The walk hands given types down or on, and never makes one up. -/
theorem part_of_inferAt (plain : environment.catalog.Plain) {depth : Nat}
    (inferred : environment.inferAt depth expr = .ok type) (composite : type.isComposite) :
    ∃ given, environment.Given expr given ∧ type.Part given := by
  induction expr using Expr.induction generalizing depth type with
  | step expr ih =>
    obtain ⟨_, types, operands, concluded⟩ := environment.inferAt_eq_ok_iff.mp inferred
    rcases conclude_part plain concluded composite with ⟨container, listed, inside⟩ | found
    · obtain ⟨operand, visited, typed⟩ := related_of_mem operands listed
      have member := expr.visited_subset visited
      obtain ⟨given, source, part⟩ := ih operand member typed (inside.isComposite composite)
      exact ⟨given, source.of_operand member, inside.trans part⟩
    · exact found

theorem Given.wellFormed {policy : CasePolicy} (given : environment.Given expr type)
    (own : environment.schema.casePolicy = policy)
    (catalog : environment.catalog.WellFormed policy)
    (rows : ∀ row ∈ expr.subqueries, row.casePolicy = .insensitive ∨ row.casePolicy = policy) :
    type.WellFormed policy := by
  cases given with
  | column member => exact own ▸ environment.schema.wellFormed_of_mem member
  | @subquery row field inside member =>
    have good := row.wellFormed_of_mem member
    rcases rows row inside with ignored | same
    · rw [ignored] at good
      exact good.of_insensitive
    · exact same ▸ good
  | fixed fixes => exact catalog.fixed type fixes

/-- Every member of a well-named `STRUCT` is reached by its name. -/
theorem infer_fieldAccess {fields : List Field} (span : Option Span)
    (inferred : environment.infer expr = .ok (.struct fields))
    (good : Field.WellNamed environment.schema.casePolicy fields) {field : Field}
    (member : field ∈ fields)
    (inside : (Expr.fieldAccess span expr field.name).height ≤ environment.options.maxDepth) :
    environment.infer (.fieldAccess span expr field.name) = .ok field.type := by
  rw [Expr.height] at inside
  have base : environment.inferAt 2 expr = .ok (.struct fields) := by
    rw [← inferred]
    exact environment.inferAt_of_height (by omega) (by omega)
  rw [infer, inferAt_eq_ok_iff]
  refine ⟨by omega, [.struct fields], .cons base .nil, ?_⟩
  rw [conclude, unplaced_eq_ok_iff]
  have found := (Field.find?_eq_some_iff good.fold_distinct).mpr
    ⟨member, CasePolicy.agree_iff.mpr rfl⟩
  simp only [Schema.member, SqlType.fields?, found]

/-- An inferred composite type is a part of a given one. So its names are good under the policy of
the schema, and a further access reaches each member of an inferred `STRUCT`. The functions must fix
well-formed results, as the built-in ones do, and subqueries may ignore case or not as the schema
does. -/
theorem infer_well_formed :
    (∀ policy, Registry.builtin.toCatalog.WellFormed policy) ∧
    ∀ (environment : Environment) (expr : Expr) (type : SqlType),
      environment.catalog.WellFormed environment.schema.casePolicy →
      (∀ row ∈ expr.subqueries,
        row.casePolicy = .insensitive ∨ row.casePolicy = environment.schema.casePolicy) →
      environment.infer expr = .ok type →
      (type.isComposite → ∃ given, environment.Given expr given ∧ type.Part given) ∧
      (∀ fields, (SqlType.struct fields).Part type →
        Field.WellNamed environment.schema.casePolicy fields) ∧
      ∀ fields, type = .struct fields → ∀ field ∈ fields, ∀ span,
        (Expr.fieldAccess span expr field.name).height ≤ environment.options.maxDepth →
        environment.infer (.fieldAccess span expr field.name) = .ok field.type := by
  refine ⟨Registry.builtin_wellFormed, ?_⟩
  intro environment expr type catalog rows inferred
  have origin : type.isComposite → ∃ given, environment.Given expr given ∧ type.Part given :=
    part_of_inferAt catalog.plain inferred
  have good : type.WellFormed environment.schema.casePolicy := by
    intro fields inside
    obtain ⟨given, source, part⟩ := origin (inside.isComposite rfl)
    exact (source.wellFormed rfl catalog rows).part part fields inside
  refine ⟨origin, good, ?_⟩
  intro fields struct field member span
  subst struct
  exact infer_fieldAccess span inferred (good fields .whole) member

/-- Two members whose names differ in their case only. -/
def twoZips : List Field := [
  { name := "zip", type := .int64 },
  { name := "ZIP", type := .string }]

def places : Environment where
  schema := {
    name := none
    fields := [{ name := "places", type := .map .string (.array (.struct twoZips)) }]
    casePolicy := .sensitive
    folded := by decide
    accepted := by decide }
  catalog := Registry.builtin.toCatalog

/-- `HOMES` of type `ARRAY<STRUCT<CITY STRING>>`. -/
def homes : Schema where
  name := none
  fields := [{ name := "HOMES", type := .array (.struct [{ name := "CITY", type := .string }]) }]
  casePolicy := .insensitive
  folded := by decide
  accepted := by decide

/-- `IFNULL(places['x'], (SELECT HOMES))[0]` -/
def firstPlace : Expr :=
  let place := .subscript none (.column none none "places") (.literal none (.string "x"))
  .subscript none (.call none "IFNULL" [place, .subquery none homes])
    (.literal none (.integer 0))

theorem firstPlace_well_formed :
    (∀ row ∈ firstPlace.subqueries, row.casePolicy = .insensitive ∨ row.casePolicy = .sensitive) ∧
    places.infer firstPlace = .ok (.struct twoZips) ∧
    (∃ given, places.Given firstPlace given ∧ (SqlType.struct twoZips).Part given) ∧
    Field.WellNamed .sensitive twoZips ∧
    places.infer (.fieldAccess none firstPlace "ZIP") = .ok .string := by
  have rows : ∀ row ∈ firstPlace.subqueries,
      row.casePolicy = .insensitive ∨ row.casePolicy = .sensitive := by decide
  have inferred : places.infer firstPlace = .ok (.struct twoZips) := by decide +kernel
  obtain ⟨builtin, law⟩ := infer_well_formed
  obtain ⟨origin, good, members⟩ := law places firstPlace _ (builtin .sensitive) rows inferred
  have reached := members twoZips rfl { name := "ZIP", type := .string } (by simp [twoZips]) none
  exact ⟨rows, inferred, origin rfl, good twoZips .whole, reached (by decide)⟩

end Environment

end QueryTyping
