import QueryTyping.Function.Builtin
import QueryTyping.Proofs.Agreement
import QueryTyping.Proofs.UndottedColumns

/-! Rows that get one more column. Where no column has a dotted name or that of the relation, a name
can be cut in one way only into a column and the members behind it. The new column then takes no
name from the old ones, and every expression keeps its type. -/

namespace QueryTyping

namespace Schema

/-- No column has a dotted name or the name of the relation. -/
structure Plain (schema : Schema) : Prop where
  undotted : ∀ field ∈ schema.fields, ¬ Text.hasDot field.name
  apart : ∀ relation ∈ schema.name, ∀ field ∈ schema.fields,
    ¬ schema.casePolicy.agree relation field.name

/-- A name cut into that of a column and those of the members behind it. -/
def cut (schema : Schema) (name : String) : String × List String :=
  match Text.segments name with
  | first :: next :: rest =>
    if schema.name.any (schema.casePolicy.agree · first) then (next, rest)
    else (first, next :: rest)
  | _ => (name, [])

namespace Plain

variable {schema : Schema} (plain : schema.Plain) {name longer : String} {field : Field}
  {front rest segments : List String} {found : ResolvedColumn}

include plain

theorem toUndotted : schema.Undotted :=
  plain.undotted

/-- What stands for a column is the front of the cut. -/
theorem cut_of_hits (hits : schema.Hits front field) (split : front ++ rest = Text.segments name) :
    schema.Named (schema.cut name).1 field ∧ (schema.cut name).2 = rest := by
  rcases plain.toUndotted.hits_cases hits with
    ⟨segment, rfl, named⟩ | ⟨relation, first, next, rfl, listed, qualifies, named⟩
  · cases rest with
    | nil =>
      obtain rfl := Text.eq_of_segments_single split.symm
      have cut : schema.cut segment = (segment, []) := by
        simp only [Schema.cut, ← split, List.singleton_append]
      rw [cut]
      exact ⟨named, rfl⟩
    | cons next rest =>
      have other : ¬ schema.name.any (schema.casePolicy.agree · segment) := by
        intro qualifies
        obtain ⟨relation, listed, same⟩ := (Option.any_eq_true _ _).mp qualifies
        apply plain.apart relation listed field named.1
        rw [CasePolicy.agree_iff] at same ⊢
        exact same.trans (CasePolicy.agree_iff.mp named.2).symm
      have cut : schema.cut name = (segment, next :: rest) := by
        simp only [Schema.cut, ← split, List.singleton_append, if_neg other]
      rw [cut]
      exact ⟨named, rfl⟩
  · have relation : schema.name.any (schema.casePolicy.agree · first) :=
      (Option.any_eq_true _ _).mpr ⟨relation, listed, qualifies⟩
    have cut : schema.cut name = (next, rest) := by
      simp only [Schema.cut, ← split, List.cons_append, List.nil_append, if_pos relation]
    rw [cut]
    exact ⟨named, rfl⟩

theorem hits_of_cut (named : schema.Named (schema.cut name).1 field) :
    ∃ front, front ++ (schema.cut name).2 = Text.segments name ∧ schema.Hits front field := by
  rcases parts : Text.segments name with _ | ⟨first, _ | ⟨next, rest⟩⟩
  · exact absurd parts (Text.segments_ne_nil name)
  · obtain rfl := Text.eq_of_segments_single parts
    simp only [cut, parts] at named ⊢
    exact ⟨[first], rfl, .whole (by rwa [Text.dotted_single])⟩
  · by_cases relation : schema.name.any (schema.casePolicy.agree · first)
    · obtain ⟨label, listed, qualifies⟩ := (Option.any_eq_true _ _).mp relation
      simp only [cut, parts, if_pos relation] at named ⊢
      have unnamed : ∀ other, ¬ schema.Named (Text.dotted [first, next]) other :=
        fun _ => plain.toUndotted.not_named first next []
      exact ⟨[first, next], rfl, .qualified unnamed listed qualifies (by rwa [Text.dotted_single])⟩
    · simp only [cut, parts, if_neg relation] at named ⊢
      exact ⟨[first], rfl, .whole (by rwa [Text.dotted_single])⟩

/-- Where a beginning of a name stands for a column, no longer beginning does. -/
theorem longest (hits : schema.Hits front field) (split : front ++ rest = Text.segments name) :
    schema.Longest name front rest := by
  refine ⟨split, fun longer begins more settles => ?_⟩
  obtain ⟨behind, whole⟩ := begins
  obtain ⟨other, again⟩ := plain.toUndotted.exists_hits settles
  have same : behind = rest :=
    (plain.cut_of_hits again whole).2.symm.trans (plain.cut_of_hits hits split).2
  rw [same, ← split] at whole
  obtain rfl := List.append_cancel_right whole
  exact absurd more (Nat.lt_irrefl _)

theorem resolveColumn_of_hits (hits : schema.Hits front field)
    (split : front ++ rest = Text.segments name) :
    schema.resolveColumn name =
      rest.foldlM schema.enter { path := schema.columnPath field, type := field.type } :=
  (Resolves.column (plain.longest hits split) hits).eq

/-- Segments behind a name that has a meaning are entered from what it stands for. -/
theorem resolveColumn_append (resolved : schema.resolveColumn name = .ok found)
    (parts : Text.segments longer = Text.segments name ++ segments) :
    schema.resolveColumn longer = segments.foldlM schema.enter found := by
  obtain ⟨front, rest, field, longest, hits, walked⟩ :=
    (schema.resolves_resolveColumn name).column_of_ok resolved
  have split : front ++ (rest ++ segments) = Text.segments longer := by
    rw [← List.append_assoc, longest.split, parts]
  rw [plain.resolveColumn_of_hits hits split, List.foldlM_append, walked, ok_bind]

/-- In a plain row a name means what its only cut leads to. -/
theorem resolveColumn (name : String) :
    schema.resolveColumn name =
      match schema.casePolicy.find? (schema.cut name).1 schema.fields with
      | some field => schema.follow (schema.columnPath field) field.type (schema.cut name).2
      | none => .error (.fieldNotFound (schema.fold name) schema.label) := by
  cases found : schema.casePolicy.find? (schema.cut name).1 schema.fields with
  | some field =>
    obtain ⟨front, split, hits⟩ := plain.hits_of_cut (named_iff.mpr found)
    rw [plain.resolveColumn_of_hits hits split]
    exact (follow_eq_foldlM schema _ _ _).symm
  | none =>
    apply Resolves.eq
    refine .missing fun front begins settles => ?_
    obtain ⟨rest, split⟩ := begins
    obtain ⟨field, hits⟩ := plain.toUndotted.exists_hits settles
    exact unnamed_iff.mpr found field (plain.cut_of_hits hits split).1

end Plain

/-- The same row with one more column, which may stand anywhere. -/
structure Adds (larger smaller : Schema) (column : Field) : Prop where
  name : larger.name = smaller.name
  casePolicy : larger.casePolicy = smaller.casePolicy
  fields : ∃ before after, smaller.fields = before ++ after ∧
    larger.fields = before ++ column :: after

namespace Adds

variable {larger smaller : Schema} {column : Field}

private theorem mem (adds : larger.Adds smaller column) {field : Field}
    (member : field ∈ smaller.fields) : field ∈ larger.fields := by
  obtain ⟨before, after, split, whole⟩ := adds.fields
  rw [split, List.mem_append] at member
  rw [whole, List.mem_append]
  exact member.imp_right (List.mem_cons_of_mem _)

private theorem plain (adds : larger.Adds smaller column) (plain : larger.Plain) :
    smaller.Plain where
  undotted field member := plain.undotted field (adds.mem member)
  apart relation named field member := by
    rw [← adds.casePolicy]
    exact plain.apart relation (adds.name ▸ named) field (adds.mem member)

/-- The old columns keep their names to themselves, since no two columns of a row share one. -/
theorem find? (adds : larger.Adds smaller column) {name : String} {field : Field}
    (found : smaller.casePolicy.find? name smaller.fields = some field) :
    larger.casePolicy.find? name larger.fields = some field := by
  obtain ⟨member, agrees⟩ := find?_eq_some_iff.mp found
  rw [← adds.casePolicy] at agrees
  exact find?_eq_some_iff.mpr ⟨adds.mem member, agrees⟩

theorem resolveColumn (adds : larger.Adds smaller column) (plain : larger.Plain) {name : String}
    {found : ResolvedColumn} (resolved : smaller.resolveColumn name = .ok found) :
    larger.resolveColumn name = .ok found := by
  have cut : larger.cut name = smaller.cut name := by
    simp only [Schema.cut, adds.name, adds.casePolicy]
  rw [(adds.plain plain).resolveColumn] at resolved
  rw [plain.resolveColumn, cut]
  split at resolved
  next field whole =>
    have path : larger.columnPath field = smaller.columnPath field := by
      simp only [columnPath, adds.name]
    simp only [adds.find? whole, path, follow_congr adds.casePolicy, resolved]
  next => cases resolved

end Adds

end Schema

namespace Environment

variable {larger smaller : Schema} {column : Field} {catalog : Catalog}
  {options : InferenceOptions}

/-- A node concludes the same type over the larger row, if it concludes any. -/
theorem conclude_of_adds (adds : larger.Adds smaller column) (plain : larger.Plain) (expr : Expr)
    {types : List SqlType} {type : SqlType}
    (concluded : (Environment.mk smaller catalog options).conclude expr types = .ok type) :
    (Environment.mk larger catalog options).conclude expr types = .ok type := by
  cases expr with
  | column span qualifier name =>
    rcases types with _ | _
    · rw [conclude, unplaced_eq_ok_iff, map_eq_ok_iff] at concluded ⊢
      obtain ⟨found, resolved, same⟩ := concluded
      exact ⟨found, adds.resolveColumn plain resolved, same⟩
    · cases concluded
  | fieldAccess span base field =>
    rcases types with _ | ⟨container, _ | _⟩
    · cases concluded
    · -- The path of the base may only show in an error.
      rw [conclude, unplaced_eq_ok_iff, Schema.member_eq_ok_iff] at concluded ⊢
      exact adds.casePolicy ▸ concluded
    · cases concluded
  | subscript span base index =>
    rcases types with _ | ⟨container, _ | ⟨key, _ | _⟩⟩
    · cases concluded
    · cases concluded
    · simp only [conclude, bind_eq_ok_iff, unplaced_eq_ok_iff, mapError_eq_ok_iff]
        at concluded ⊢
      obtain ⟨element, selected, _, fits, same⟩ := concluded
      have selects := SqlType.selects_iff.mp ⟨selected, fits⟩
      obtain ⟨again, within⟩ := SqlType.selects_iff.mpr selects
      exact ⟨element, again, (), within, same⟩
    · cases concluded
  | literal | subquery => cases types <;> exact concluded
  | arithmetic | comparison | like =>
    rcases types with _ | ⟨first, _ | ⟨second, _ | _⟩⟩ <;> exact concluded
  | logical | call => exact concluded

/-- A new column never takes the type of an expression away or changes it, as long as no column of
the larger row has a dotted name or the name of the relation. -/
theorem infer_of_adds (adds : larger.Adds smaller column) (plain : larger.Plain)
    (catalog : Catalog) (options : InferenceOptions) {expr : Expr} {type : SqlType}
    (typed : (Environment.mk smaller catalog options).infer expr = .ok type) :
    (Environment.mk larger catalog options).infer expr = .ok type := by
  have agrees : Agrees (fun _ => True) ((Environment.mk smaller catalog options).infer expr)
      ((Environment.mk larger catalog options).infer expr) := by
    refine inferAt_agrees ?_ ?_ (.inr trivial) 1 expr
    · intro expr types
      cases concluded : (Environment.mk smaller catalog options).conclude expr types with
      | ok type => exact .inr (conclude_of_adds adds plain expr concluded)
      | error error => exact .inl ⟨error, rfl, trivial⟩
    · exact Nat.le_refl _
  rcases agrees with ⟨error, failed, _⟩ | same
  · cases typed.symm.trans failed
  · exact same.trans typed

/-- `ADDRESS` of type `STRUCT<ZIP INT64, UNITS STRING>`, and a number. -/
def unitsAndAddress : Schema where
  name := some "ORDERS"
  fields := [
    { name := "ADDRESS",
      type := .struct [{ name := "ZIP", type := .int64 }, { name := "UNITS", type := .string }] },
    { name := "UNITS", type := .int32 }]
  casePolicy := .insensitive
  folded := by decide
  accepted := by decide

def newZip : Field where
  name := "ZIP"
  type := .string

/-- The new column is called like a member of the old one. -/
def unitsAddressAndZip : Schema where
  name := some "ORDERS"
  fields := [
    { name := "ADDRESS",
      type := .struct [{ name := "ZIP", type := .int64 }, { name := "UNITS", type := .string }] },
    newZip,
    { name := "UNITS", type := .int32 }]
  casePolicy := .insensitive
  folded := by decide
  accepted := by decide

theorem unitsAddressAndZip_adds : unitsAddressAndZip.Adds unitsAndAddress newZip where
  name := rfl
  casePolicy := rfl
  fields := ⟨unitsAndAddress.fields.take 1, unitsAndAddress.fields.drop 1, rfl, rfl⟩

/-- `orders.address.zip * abs(orders.units)` -/
def zipTimesUnits : Expr :=
  .arithmetic none .mul (.column none (some "orders") "address.zip")
    (.call none "abs" [.column none (some "orders") "units"])

/-- `ZIP` alone is a new name, and `ORDERS.ADDRESS.ZIP` is what it was. -/
theorem zipTimesUnits_of_adds :
    unitsAddressAndZip.Adds unitsAndAddress newZip ∧ unitsAddressAndZip.Plain ∧
    (Environment.mk unitsAndAddress Registry.builtin.toCatalog {}).infer zipTimesUnits =
      .ok .int64 ∧
    (Environment.mk unitsAddressAndZip Registry.builtin.toCatalog {}).infer zipTimesUnits =
      .ok .int64 := by
  have plain : unitsAddressAndZip.Plain := ⟨by decide, by decide⟩
  have typed : (Environment.mk unitsAndAddress Registry.builtin.toCatalog {}).infer
      zipTimesUnits = .ok .int64 := by decide +kernel
  exact ⟨unitsAddressAndZip_adds, plain, typed,
    infer_of_adds unitsAddressAndZip_adds plain Registry.builtin.toCatalog {} typed⟩

end Environment

end QueryTyping
