import QueryTyping.Proofs.Parts

/-! Which rows become schemas. The fields of all levels stand in one order, each before those inside
it, and each is good or at fault by itself. A row is accepted when all are good, and otherwise
refused because of the first that is not. -/

namespace QueryTyping

/-- Where a field stands: the names of the fields around it, the outermost first, and of those before
it at its level. -/
structure Place where
  around : List String
  before : List String
  name : String

/-- A blank name is refused as blank also where it is given twice. The path leads to the level at
which the field stands. -/
def Place.fault? (policy : CasePolicy) (label : String) (place : Place) : Option SchemaError :=
  let path := Text.dotted (label :: place.around)
  if Text.isBlankText place.name then some (.emptyFieldName path)
  else if place.before.any (policy.agree · place.name) then
    some (.duplicateField place.name path)
  else none

mutual

/-- The places of all fields inside a type, in the order in which they are declared. -/
def SqlType.places (around : List String) : SqlType → List Place
  | .struct fields => Field.places around [] fields
  | .array items => items.places around
  | .map key value => key.places around ++ value.places around
  | _ => []

def Field.places (around before : List String) : List Field → List Place
  | [] => []
  | ⟨name, type, _⟩ :: rest =>
    ⟨around, before, name⟩ :: type.places (around ++ [name]) ++
      Field.places around (before ++ [name]) rest

end

section Check

variable {policy : CasePolicy} {label : String}

/-- The answer of a check that meets these places in this order. -/
def verdict (policy : CasePolicy) (label : String) (places : List Place) :
    Except SchemaError Unit :=
  (places.findSome? (Place.fault? policy label)).elim (.ok ()) .error

theorem verdict_append (places others : List Place) :
    verdict policy label (places ++ others) =
      (do verdict policy label places; verdict policy label others) := by
  rw [verdict, List.findSome?_append, verdict]
  cases places.findSome? (Place.fault? policy label) <;> rfl

mutual

/-- The check of a row stops at the first place with a fault. -/
theorem Field.checkAll_eq_verdict (around : List String) {before earlier : List String}
    (seen : ∀ name, name ∈ earlier ↔ name ∈ before) : (fields : List Field) →
    Field.checkAll policy (Text.dotted (label :: around)) earlier fields =
      verdict policy label (Field.places around before fields)
  | [] => rfl
  | ⟨name, type, nullable⟩ :: rest => by
    have repeats : earlier.any (policy.agree · name) = before.any (policy.agree · name) := by
      rw [Bool.eq_iff_iff, List.any_eq_true, List.any_eq_true]
      simp only [seen]
    rw [Field.checkAll, Field.places, List.cons_append, verdict, List.findSome?_cons,
      Place.fault?, ← repeats]
    split
    next => rfl
    split
    next => rfl
    have inside := SqlType.check_eq_verdict (around ++ [name]) type
    have longer : ∀ label, label ∈ name :: earlier ↔ label ∈ before ++ [name] := by
      simp [seen, or_comm]
    rw [← List.cons_append, Text.dotted_concat] at inside
    rw [inside, Field.checkAll_eq_verdict around longer rest]
    exact (verdict_append _ _).symm

theorem SqlType.check_eq_verdict (around : List String) : (type : SqlType) →
    type.check policy (Text.dotted (label :: around)) = verdict policy label (type.places around)
  | .struct fields => Field.checkAll_eq_verdict around (by simp) fields
  | .array items => SqlType.check_eq_verdict around items
  | .map key value => by
    rw [SqlType.check, SqlType.places, verdict_append, SqlType.check_eq_verdict around key,
      SqlType.check_eq_verdict around value]
  | .int32 | .int64 | .float64 | .string | .boolean => rfl

end

theorem Field.checkAll_row (fields : List Field) :
    Field.checkAll policy label [] fields = verdict policy label (Field.places [] [] fields) := by
  have walked : SqlType.check policy (Text.dotted [label]) (.struct fields) = _ :=
    SqlType.check_eq_verdict [] (.struct fields)
  rwa [Text.dotted_single] at walked

theorem verdict_eq_error_iff {places : List Place} {error : SchemaError} :
    verdict policy label places = .error error ↔ ∃ before place after,
      places = before ++ place :: after ∧ place.fault? policy label = some error ∧
        ∀ earlier ∈ before, earlier.fault? policy label = none := by
  rw [← List.findSome?_eq_some_iff, verdict]
  cases places.findSome? (Place.fault? policy label) <;> simp

end Check

section Accepted

variable {policy : CasePolicy}

mutual

/-- Nothing is refused but what the levels of a row are asked for. -/
theorem SqlType.check_of_wellFormed {path : String} :
    (type : SqlType) → type.WellFormed policy → type.check policy path = .ok ()
  | .struct fields, good => by
    have level := good fields .whole
    have each : ∀ field ∈ fields, ¬ Text.isBlankText field.name ∧ field.type.WellFormed policy :=
      fun field member => ⟨level.named field member, good.part (.member member .whole)⟩
    exact Field.checkAll_of_wellFormed fields each level.distinct (by simp)
  | .array items, good => SqlType.check_of_wellFormed items (good.part (.items .whole))
  | .map key value, good => by
    rw [SqlType.check, SqlType.check_of_wellFormed key (good.part (.key .whole)),
      SqlType.check_of_wellFormed value (good.part (.value .whole)), ok_bind]
  | .int32, _ | .int64, _ | .float64, _ | .string, _ | .boolean, _ => rfl

theorem Field.checkAll_of_wellFormed {path : String} {earlier : List String} :
    (fields : List Field) →
    (∀ field ∈ fields, ¬ Text.isBlankText field.name ∧ field.type.WellFormed policy) →
    fields.Pairwise (fun first second => ¬ policy.agree first.name second.name) →
    (∀ name ∈ earlier, ∀ field ∈ fields, ¬ policy.agree name field.name) →
    Field.checkAll policy path earlier fields = .ok ()
  | [], _, _, _ => rfl
  | ⟨name, type, nullable⟩ :: rest, each, distinct, fresh => by
    obtain ⟨⟨named, good⟩, others⟩ := List.forall_mem_cons.mp each
    obtain ⟨apart, behind⟩ := List.pairwise_cons.mp distinct
    have unseen : ¬ earlier.any (policy.agree · name) := by
      intro seen
      obtain ⟨same, member, agrees⟩ := List.any_eq_true.mp seen
      exact fresh same member _ List.mem_cons_self agrees
    have next : ∀ label ∈ name :: earlier, ∀ field ∈ rest, ¬ policy.agree label field.name :=
      List.forall_mem_cons.mpr ⟨apart, fun label member field later =>
        fresh label member field (List.mem_cons_of_mem _ later)⟩
    rw [Field.checkAll, if_neg named, if_neg unseen, SqlType.check_of_wellFormed type good, ok_bind]
    exact Field.checkAll_of_wellFormed rest others behind next

end

theorem Field.checkAll_eq_ok_iff {path : String} {fields : List Field} :
    Field.checkAll policy path [] fields = .ok () ↔ (SqlType.struct fields).WellFormed policy :=
  ⟨SqlType.wellFormed_of_check (.struct fields), SqlType.check_of_wellFormed (.struct fields)⟩

/-- The fields as they are kept: where case does not count, every name at every level is in upper
case. -/
def Field.kept (policy : CasePolicy) (fields : List Field) : List Field :=
  match policy with
  | .sensitive => fields
  | .insensitive => Field.renameAll Text.upper fields

theorem Field.renameAll_fold (fields : List Field) :
    Field.renameAll policy.fold fields = Field.kept policy fields := by
  cases policy with
  | sensitive => exact Field.renameAll_same fields
  | insensitive => rfl

end Accepted

namespace Schema

variable {relation : Option String} {fields : List Field} {policy : CasePolicy}

theorem exists_build_iff : (∃ schema, build relation fields policy = .ok schema) ↔
    (SqlType.struct (Field.kept policy fields)).WellFormed policy := by
  rw [← Field.renameAll_fold]
  constructor
  · rintro ⟨schema, built⟩
    obtain ⟨_, row, same⟩ := build_eq_ok_iff.mp built
    rw [← row, ← same]
    exact Field.checkAll_eq_ok_iff.mp schema.accepted
  · intro good
    cases built : build relation fields policy with
    | error error =>
      have refused := build_eq_error_iff.mp built
      cases refused.symm.trans (Field.checkAll_eq_ok_iff.mpr good)
    | ok schema => exact ⟨schema, rfl⟩

/-- A schema is built from what it keeps. -/
theorem build_self (schema : Schema) :
    build schema.name schema.fields schema.casePolicy = .ok schema :=
  build_eq_ok_iff.mpr ⟨schema.folded.1.symm, schema.folded.2.symm, rfl⟩

/-- A row becomes a schema when it is well-formed at every level, and is otherwise refused because
of the first of its fields that is at fault. -/
theorem build_exactly (relation : Option String) (fields : List Field) (policy : CasePolicy) :
    ((∃ schema, build relation fields policy = .ok schema) ↔
      (SqlType.struct (Field.kept policy fields)).WellFormed policy) ∧
    (∀ schema, build relation fields policy = .ok schema →
      schema.name = relation.map policy.fold ∧ schema.fields = Field.kept policy fields ∧
        schema.casePolicy = policy ∧
        build schema.name schema.fields schema.casePolicy = .ok schema) ∧
    ∀ error, build relation fields policy = .error error ↔ ∃ before place after,
      Field.places [] [] (Field.kept policy fields) = before ++ place :: after ∧
        place.fault? policy (relationLabel (relation.map policy.fold)) = some error ∧
        ∀ earlier ∈ before,
          earlier.fault? policy (relationLabel (relation.map policy.fold)) = none := by
  refine ⟨exists_build_iff, ?_, ?_⟩
  · intro schema built
    obtain ⟨name, row, same⟩ := build_eq_ok_iff.mp built
    exact ⟨name, row.trans (Field.renameAll_fold fields), same, schema.build_self⟩
  · intro error
    rw [build_eq_error_iff, Field.renameAll_fold, Field.checkAll_row, verdict_eq_error_iff]

/-- Names that differ as they are given can be one name below an array. -/
example :
    let items := SqlType.struct [⟨"qty", .int32, true⟩, ⟨"Qty", .int64, true⟩]
    build (some "orders") [⟨"Id", .int32, true⟩, ⟨"Lines", .array items, true⟩] .insensitive =
      .error (.duplicateField "QTY" "ORDERS.LINES") := by
  decide

end Schema

end QueryTyping
