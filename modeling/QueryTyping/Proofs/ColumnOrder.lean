import QueryTyping.Function.Builtin
import QueryTyping.Proofs.Likeness
import QueryTyping.Proofs.Precedence
import Mathlib.Data.Multiset.ZeroCons

/-! Rows with their columns in another order. A name means one column at most wherever that stands,
and a segment in which several dotted names end is refused with all of them. So the order of the
columns decides nothing but the order in which such candidates are listed. -/

namespace QueryTyping

/-- The candidates of an ambiguous name apart from the rest of the cause, and in no order. -/
def Cause.unordered : Cause → Cause × Multiset String
  | .ambiguousField field path candidates => (.ambiguousField field path [], candidates)
  | cause => (cause, 0)

private theorem Cause.unordered_cases (cause : Cause) :
    (∃ field path candidates, cause = .ambiguousField field path candidates) ∨
      cause.unordered = (cause, 0) := by
  cases cause with
  | ambiguousField field path candidates => exact .inl ⟨field, path, candidates, rfl⟩
  | _ => exact .inr rfl

theorem Cause.eq_or_perm_of_unordered {cause twin : Cause}
    (same : cause.unordered = twin.unordered) :
    cause = twin ∨ ∃ field path candidates others, cause = .ambiguousField field path candidates ∧
      twin = .ambiguousField field path others ∧ candidates.Perm others := by
  rcases cause.unordered_cases with ⟨field, path, candidates, rfl⟩ | plain
  · rcases twin.unordered_cases with ⟨other, place, others, rfl⟩ | single
    · obtain ⟨rest, members⟩ := Prod.mk.inj same
      cases rest
      exact .inr ⟨field, path, candidates, others, rfl, rfl, Multiset.coe_eq_coe.mp members⟩
    · rw [single] at same
      obtain ⟨rfl, members⟩ := Prod.mk.inj same
      rw [(Multiset.coe_eq_zero _).mp members]
      exact .inl rfl
  · rcases twin.unordered_cases with ⟨other, place, others, rfl⟩ | single
    · rw [plain] at same
      obtain ⟨rfl, members⟩ := Prod.mk.inj same
      rw [(Multiset.coe_eq_zero _).mp members.symm]
      exact .inl rfl
    · rw [plain, single] at same
      exact .inl (congrArg Prod.fst same)

/-- What two errors share that differ at most in the order of their candidates. -/
def TypeError.unordered (error : TypeError) : (Cause × Multiset String) × Option Span :=
  (error.cause.unordered, error.span)

namespace Schema

/-- The same row with its columns in any order. -/
structure Reorders (first second : Schema) : Prop where
  name : first.name = second.name
  casePolicy : first.casePolicy = second.casePolicy
  fields : first.fields.Perm second.fields

namespace Reorders

variable {first second : Schema} (reorders : first.Reorders second) {name segment : String}
  {field : Field} {front rest : List String}

include reorders

theorem symm : second.Reorders first :=
  ⟨reorders.name.symm, reorders.casePolicy.symm, reorders.fields.symm⟩

theorem named (named : first.Named name field) : second.Named name field :=
  ⟨reorders.fields.mem_iff.mp named.1, reorders.casePolicy ▸ named.2⟩

theorem unnamed (unnamed : ∀ other, ¬ first.Named name other) (other : Field) :
    ¬ second.Named name other :=
  mt reorders.symm.named (unnamed other)

theorem candidates (segment : String) :
    (first.candidates segment).Perm (second.candidates segment) := by
  unfold Schema.candidates
  rw [reorders.casePolicy]
  exact reorders.fields.filter _

theorem hits (hits : first.Hits front field) : second.Hits front field := by
  cases hits with
  | whole named => exact .whole (reorders.named named)
  | @ending segment _ unnamed only =>
    have single := reorders.candidates segment
    rw [only] at single
    exact .ending (reorders.unnamed unnamed) (List.perm_singleton.mp single.symm)
  | qualified unnamed listed qualifies named =>
    exact .qualified (reorders.unnamed unnamed) (reorders.name ▸ listed)
      (reorders.casePolicy ▸ qualifies) (reorders.named named)

theorem ambiguous (ambiguous : first.Ambiguous segment) : second.Ambiguous segment := by
  refine ⟨reorders.unnamed ambiguous.unnamed, ?_⟩
  rw [← (reorders.candidates segment).length_eq]
  exact ambiguous.several

theorem settles (settles : first.Settles front) : second.Settles front := by
  rcases settles with ⟨field, hits⟩ | ⟨segment, single, ambiguous⟩
  · exact .inl ⟨field, reorders.hits hits⟩
  · exact .inr ⟨segment, single, reorders.ambiguous ambiguous⟩

theorem longest (longest : first.Longest name front rest) : second.Longest name front rest :=
  ⟨longest.split, fun longer begins more =>
    mt reorders.symm.settles (longest.longest longer begins more)⟩

theorem enter (reached : ResolvedColumn) (segment : String) :
    first.enter reached segment = second.enter reached segment := by
  simp only [enter_eq, member_congr reorders.casePolicy, Schema.fold, reorders.casePolicy]

/-- A name leads to the same column or member, or fails for the same cause up to the order of its
candidates. -/
theorem resolveColumn (name : String) :
    Except.mapError Cause.unordered (first.resolveColumn name) =
      Except.mapError Cause.unordered (second.resolveColumn name) := by
  have label : first.label = second.label := congrArg relationLabel reorders.name
  have fold : first.fold = second.fold := congrArg CasePolicy.fold reorders.casePolicy
  have resolves := first.resolves_resolveColumn name
  generalize first.resolveColumn name = result at resolves ⊢
  cases resolves with
  | column longest hits =>
    have path (field : Field) : first.columnPath field = second.columnPath field := by
      simp only [columnPath, reorders.name]
    have enter : first.enter = second.enter :=
      funext fun reached => funext (reorders.enter reached)
    rw [(Resolves.column (reorders.longest longest) (reorders.hits hits)).eq, path, enter]
  | @ambiguous segment _ longest ambiguous =>
    have names := (reorders.candidates segment).map Field.name
    rw [(Resolves.ambiguous (reorders.longest longest) (reorders.ambiguous ambiguous)).eq, label,
      fold]
    exact congrArg (fun candidates => Except.error (_, candidates)) (Multiset.coe_eq_coe.mpr names)
  | missing unsettled =>
    have missing := Resolves.missing fun front begins =>
      mt reorders.symm.settles (unsettled front begins)
    rw [missing.eq, label, fold]

theorem resolveColumn_cases (name : String) :
    (∃ found, first.resolveColumn name = .ok found ∧ second.resolveColumn name = .ok found) ∨
      ∃ cause twin, first.resolveColumn name = .error cause ∧
        second.resolveColumn name = .error twin ∧ cause.unordered = twin.unordered := by
  have same := reorders.resolveColumn name
  cases resolved : first.resolveColumn name with
  | ok found =>
    rw [resolved] at same
    exact .inl ⟨found, rfl, mapError_eq_ok_iff.mp same.symm⟩
  | error cause =>
    rw [resolved] at same
    obtain ⟨twin, failed, equal⟩ := mapError_eq_error_iff.mp same.symm
    exact .inr ⟨cause, twin, rfl, failed, equal.symm⟩

theorem path (expr : Expr) : expr.path first = expr.path second := by
  induction expr using Expr.induction with
  | step expr ih =>
    cases expr with
    | column span qualifier name =>
      rcases reorders.resolveColumn_cases (Expr.qualifiedName qualifier name) with
        ⟨found, one, two⟩ | ⟨cause, twin, one, two, _⟩
      · simp only [Expr.path, one, two]
      · simp only [Expr.path, one, two, reorders.casePolicy]
    | fieldAccess span base field =>
      have reached := ih base (by simp [Expr.operands])
      simp only [Expr.path, reached, Schema.fold, reorders.casePolicy]
    | subscript span base index =>
      have reached := ih base (by simp [Expr.operands])
      simp only [Expr.path, reached, reorders.casePolicy]
    | _ => simp only [Expr.path, reorders.casePolicy]

end Reorders

end Schema

namespace Environment

section

variable {first second : Schema} (reorders : first.Reorders second) (catalog : Catalog)
  (options : InferenceOptions)

include reorders

theorem conclude_of_reorders (expr : Expr) (types : List SqlType) :
    Alike TypeError.unordered ((Environment.mk first catalog options).conclude expr types)
      ((Environment.mk second catalog options).conclude expr types) := by
  cases expr with
  | column span qualifier name =>
    cases types with
    | nil =>
      rcases reorders.resolveColumn_cases (Expr.qualifiedName qualifier name) with
        ⟨found, one, two⟩ | ⟨cause, twin, one, two, same⟩
      · simp only [conclude, one, two]
        exact .refl _
      · simp only [conclude, one, two]
        exact congrArg (fun shown => Except.error (shown, none)) same
    | cons => rfl
  | fieldAccess span base field =>
    rcases types with _ | ⟨container, _ | _⟩
    · rfl
    · simp only [conclude, reorders.path, Schema.member_congr reorders.casePolicy]
      exact .refl _
    · rfl
  | subscript span base index =>
    rcases types with _ | ⟨container, _ | ⟨key, _ | _⟩⟩
    · rfl
    · rfl
    · simp only [conclude, reorders.path]
      exact .refl _
    · rfl
  | literal | subquery => cases types <;> rfl
  | arithmetic | comparison | like =>
    rcases types with _ | ⟨left, _ | ⟨right, _ | _⟩⟩ <;> rfl
  | logical | call => exact .refl _

theorem inferAt_of_reorders (depth : Nat) (expr : Expr) :
    Alike TypeError.unordered ((Environment.mk first catalog options).inferAt depth expr)
      ((Environment.mk second catalog options).inferAt depth expr) := by
  induction expr using Expr.induction generalizing depth with
  | step expr ih =>
    have limit : (Environment.mk second catalog options).options =
        (Environment.mk first catalog options).options := rfl
    apply inferAt_alike limit
    · intro error twin same
      obtain ⟨cause, span⟩ := Prod.mk.inj same
      simp only [TypeError.unordered, TypeError.locate, cause, span]
    · rw [List.forall₂_same]
      exact fun operand member => ih operand (expr.visited_subset member) (depth + 1)
    · exact fun types _ => conclude_of_reorders reorders catalog options expr types

/-- The order of the columns is irrelevant. An expression has the same type over both rows or the
same error, apart from the order in which the candidates of an ambiguous name are listed. -/
theorem infer_of_reorders (expr : Expr) :
    (∃ type, (Environment.mk first catalog options).infer expr = .ok type ∧
      (Environment.mk second catalog options).infer expr = .ok type) ∨
    ∃ error twin, (Environment.mk first catalog options).infer expr = .error error ∧
      (Environment.mk second catalog options).infer expr = .error twin ∧
      (error = twin ∨ error.span = twin.span ∧ ∃ field path candidates others,
        error.cause = .ambiguousField field path candidates ∧
        twin.cause = .ambiguousField field path others ∧ candidates.Perm others) := by
  rcases (inferAt_of_reorders reorders catalog options 1 expr).cases with
    typed | ⟨error, twin, failed, refused, same⟩
  · exact .inl typed
  · refine .inr ⟨error, twin, failed, refused, ?_⟩
    obtain ⟨cause, span⟩ := Prod.mk.inj same
    rcases Cause.eq_or_perm_of_unordered cause with equal | permuted
    · have whole : TypeError.mk error.cause error.span = TypeError.mk twin.cause twin.span := by
        rw [equal, span]
      exact .inl whole
    · exact .inr ⟨span, permuted⟩

end

/-- Columns joined from two sources, in one order and in the other. -/
def leftFirst : Schema where
  name := some "ORDERS"
  fields := [
    { name := "LEFT.CODE", type := .string },
    { name := "RIGHT.CODE", type := .int64 },
    { name := "UNITS", type := .int32 }]
  casePolicy := .insensitive
  folded := by decide
  accepted := rfl

def rightFirst : Schema where
  name := some "ORDERS"
  fields := [
    { name := "UNITS", type := .int32 },
    { name := "RIGHT.CODE", type := .int64 },
    { name := "LEFT.CODE", type := .string }]
  casePolicy := .insensitive
  folded := by decide
  accepted := rfl

theorem leftFirst_reorders : leftFirst.Reorders rightFirst where
  name := rfl
  casePolicy := rfl
  fields := List.isPerm_iff.mp rfl

/-- `units + len(code)`, where `code` has a position. -/
def unitsAndCode : Expr :=
  .arithmetic none .add (.column none none "units")
    (.call none "len" [.column (some ⟨1, 13⟩) none "code"])

/-- Both sources have a `CODE`, and the candidates are listed as the columns are declared. -/
theorem unitsAndCode_of_reorders :
    leftFirst.Reorders rightFirst ∧
    (Environment.mk leftFirst Registry.builtin.toCatalog {}).infer unitsAndCode = .error
      ⟨.ambiguousField "CODE" "ORDERS" ["LEFT.CODE", "RIGHT.CODE"], some ⟨1, 13⟩⟩ ∧
    (Environment.mk rightFirst Registry.builtin.toCatalog {}).infer unitsAndCode = .error
      ⟨.ambiguousField "CODE" "ORDERS" ["RIGHT.CODE", "LEFT.CODE"], some ⟨1, 13⟩⟩ ∧
    ["LEFT.CODE", "RIGHT.CODE"].Perm ["RIGHT.CODE", "LEFT.CODE"] := by
  have failed : (Environment.mk leftFirst Registry.builtin.toCatalog {}).infer unitsAndCode = .error
      ⟨.ambiguousField "CODE" "ORDERS" ["LEFT.CODE", "RIGHT.CODE"], some ⟨1, 13⟩⟩ := rfl
  have refused : (Environment.mk rightFirst Registry.builtin.toCatalog {}).infer unitsAndCode =
      .error ⟨.ambiguousField "CODE" "ORDERS" ["RIGHT.CODE", "LEFT.CODE"], some ⟨1, 13⟩⟩ := rfl
  refine ⟨leftFirst_reorders, failed, refused, ?_⟩
  rcases infer_of_reorders leftFirst_reorders Registry.builtin.toCatalog {} unitsAndCode with
    ⟨type, typed, _⟩ | ⟨error, twin, one, two, same | ⟨_, _, _, candidates, others, left, right, perm⟩⟩
  · cases failed.symm.trans typed
  · cases failed.symm.trans one
    cases refused.symm.trans two
    exact absurd same (by decide)
  · cases failed.symm.trans one
    cases refused.symm.trans two
    cases left
    cases right
    exact perm

end Environment

end QueryTyping
