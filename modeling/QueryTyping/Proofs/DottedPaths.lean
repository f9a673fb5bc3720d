import QueryTyping.Proofs.AddedColumn
import QueryTyping.Proofs.Chains
import QueryTyping.Proofs.Likeness

/-! Two spellings of one member: a dotted column name, which the row cuts into segments, and field
accesses behind a column. In a row where a name can be cut in one way only, both enter the same
members, so that they have the same type or fail for the same cause. -/

namespace QueryTyping

namespace Expr

/-- Field accesses, each with a position of its own. -/
def accesses (fields : List (Option Span × String)) : List Step :=
  fields.map fun field => .field field.1 field.2

theorem height_accesses (base : Expr) (fields : List (Option Span × String)) :
    (chain base (accesses fields)).height = base.height + fields.length := by
  induction fields generalizing base with
  | nil => rfl
  | cons field rest ih =>
    have behind := ih (.fieldAccess field.1 base field.2)
    rw [List.length_cons, Nat.add_comm rest.length, ← Nat.add_assoc]
    exact behind

end Expr

namespace Environment

variable {environment : Environment}

theorem cause_reachColumn (span : Option Span) (qualifier : Option String) (name : String) :
    Except.mapError TypeError.cause (environment.reachColumn span qualifier name) =
      environment.schema.resolveColumn (Expr.qualifiedName qualifier name) := by
  unfold reachColumn
  cases environment.schema.resolveColumn (Expr.qualifiedName qualifier name) <;> rfl

theorem cause_proceed_field (reached : Except TypeError ResolvedColumn) (span : Option Span)
    (name : String) :
    Except.mapError TypeError.cause (environment.proceed reached (.field span name)) =
      Except.mapError TypeError.cause reached >>= (environment.schema.enter · name) := by
  cases reached with
  | error error => rfl
  | ok reached =>
    rw [proceed, ok_bind, mapError_ok, ok_bind, advance]
    cases environment.schema.enter reached name <;> rfl

/-- Positions apart, field accesses enter the members of their names one by one. -/
theorem cause_foldl_proceed (reached : Except TypeError ResolvedColumn)
    (fields : List (Option Span × String)) :
    Except.mapError TypeError.cause
        ((Expr.accesses fields).foldl environment.proceed reached) =
      Except.mapError TypeError.cause reached >>=
        (fields.map Prod.snd).foldlM environment.schema.enter := by
  induction fields generalizing reached with
  | nil => exact (bind_pure _).symm
  | cons field rest ih =>
    have behind := ih (environment.proceed reached (.field field.1 field.2))
    rw [cause_proceed_field, bind_assoc] at behind
    exact behind

/-- A dotted column name and field accesses behind a column that is found lead to the same member.
Either may have the name of the relation in front of it. They have the same type, or errors that
only differ in their position. -/
theorem infer_dotted_path (environment : Environment) (plain : environment.schema.Plain)
    {span place : Option Span} {qualifier relation : Option String} {name path : String}
    {found : ResolvedColumn}
    (resolved : environment.schema.resolveColumn (Expr.qualifiedName qualifier name) = .ok found)
    {fields : List (Option Span × String)} (undotted : ∀ field ∈ fields, ¬ Text.hasDot field.2)
    (spelled : Expr.qualifiedName relation path =
      Text.dotted (Expr.qualifiedName qualifier name :: fields.map Prod.snd))
    (shallow : fields.length < environment.options.maxDepth) :
    let column := Expr.column place relation path
    let chain := Expr.chain (.column span qualifier name) (Expr.accesses fields)
    (∃ type, environment.infer column = .ok type ∧ environment.infer chain = .ok type) ∨
      ∃ error twin, environment.infer column = .error error ∧
        environment.infer chain = .error twin ∧ error.cause = twin.cause ∧
        error.kind = twin.kind ∧ error.message = twin.message := by
  intro column chain
  let reached := environment.reachColumn place relation path
  let walked := (Expr.accesses fields).foldl environment.proceed
    (environment.reachColumn span qualifier name)
  have direct : environment.infer column = ResolvedColumn.type <$> reached :=
    infer_column_chain [] (Nat.zero_lt_of_lt shallow)
  have stepwise : environment.infer chain = ResolvedColumn.type <$> walked := by
    apply infer_column_chain
    rw [Expr.height_accesses, Expr.height, Nat.add_comm]
    exact shallow
  have parts : Text.segments (Expr.qualifiedName relation path) =
      Text.segments (Expr.qualifiedName qualifier name) ++ fields.map Prod.snd := by
    rw [spelled]
    apply Text.segments_dotted_cons
    intro part member
    obtain ⟨field, inside, rfl⟩ := List.mem_map.mp member
    exact Bool.eq_false_iff.mpr (undotted field inside)
  have alike : Alike TypeError.cause reached walked := by
    unfold Alike
    rw [cause_reachColumn, cause_foldl_proceed, cause_reachColumn, resolved, ok_bind]
    exact plain.resolveColumn_append resolved parts
  rw [direct, stepwise]
  rcases alike.cases with ⟨value, one, two⟩ | ⟨error, twin, one, two, cause⟩
  · exact .inl ⟨value.type, by rw [one]; rfl, by rw [two]; rfl⟩
  · exact .inr ⟨error, twin, by rw [one]; rfl, by rw [two]; rfl, cause, congrArg Cause.kind cause,
      congrArg Cause.message cause⟩

/-- `orders.address.zip` is a number and has no members. -/
def codeOfZip (span : Option Span) : TypeError where
  cause := .notStruct "CODE" "ORDERS.ADDRESS.ZIP" .int64
  span := span

/-- One spelling has a position at the whole name, and the other at its last access. -/
theorem addressZipCode_dotted_path :
    let environment : Environment := ⟨unitsAddressAndZip, Registry.builtin.toCatalog, {}⟩
    let column := Expr.column (some ⟨1, 1⟩) none "orders.address.zip.code"
    let fields : List (Option Span × String) := [(none, "zip"), (some ⟨1, 18⟩, "code")]
    let chain := Expr.chain (.column none (some "orders") "address") (Expr.accesses fields)
    environment.schema.Plain ∧ (∀ field ∈ fields, ¬ Text.hasDot field.2) ∧
    environment.infer column = .error (codeOfZip (some ⟨1, 1⟩)) ∧
    environment.infer chain = .error (codeOfZip (some ⟨1, 18⟩)) ∧
    ∃ error twin, environment.infer column = .error error ∧
      environment.infer chain = .error twin ∧ error.cause = twin.cause ∧
      error.kind = twin.kind ∧ error.message = twin.message := by
  intro environment column fields chain
  have plain : environment.schema.Plain := ⟨by decide, by decide⟩
  have undotted : ∀ field ∈ fields, ¬ Text.hasDot field.2 := by decide
  have failed : environment.infer column = .error (codeOfZip (some ⟨1, 1⟩)) := by decide +kernel
  have refused : environment.infer chain = .error (codeOfZip (some ⟨1, 18⟩)) := by decide +kernel
  have resolved : environment.schema.resolveColumn (Expr.qualifiedName (some "orders") "address") =
      .ok ⟨"ORDERS.ADDRESS", .struct [{ name := "ZIP", type := .int64 },
        { name := "UNITS", type := .string }]⟩ := by
    decide +kernel
  have spelled : Expr.qualifiedName none "orders.address.zip.code" =
      Text.dotted (Expr.qualifiedName (some "orders") "address" :: fields.map Prod.snd) := by
    decide +kernel
  refine ⟨plain, undotted, failed, refused, ?_⟩
  rcases environment.infer_dotted_path plain resolved undotted spelled (by decide) with
    ⟨type, typed, _⟩ | found
  · cases failed.symm.trans typed
  · exact found

end Environment

end QueryTyping
