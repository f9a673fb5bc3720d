import QueryTyping.Schema.Resolve

/-! The rules by which a name stands for a column, one equation for each. A column of exactly this
name comes first. Then a name with points may begin with the name of the relation, and a name
without points may be the end of a dotted one. -/

namespace QueryTyping.Schema

variable {schema : Schema} {name : String}

/-- The columns with a dotted name whose last segment is meant by a name. -/
def endingIn (schema : Schema) (name : String) : List Field :=
  schema.fields.filter fun field =>
    (Text.lastSegment? field.name).any (schema.casePolicy.agree · name)

theorem column?_of_whole {field : Field}
    (whole : schema.casePolicy.find? name schema.fields = some field) :
    schema.column? name = .ok (some field) := by
  simp only [column?, whole]

theorem column?_of_qualified {qualifier next : String} {rest : List String}
    (missing : schema.casePolicy.find? name schema.fields = none)
    (parts : Text.segments name = qualifier :: next :: rest) :
    schema.column? name = .ok
      (if schema.name.any (schema.casePolicy.agree · qualifier) then
        schema.casePolicy.find? (Text.dotted (next :: rest)) schema.fields
      else none) := by
  simp only [column?, missing, parts]
  split <;> rfl

theorem column?_of_single {segment : String}
    (missing : schema.casePolicy.find? name schema.fields = none)
    (parts : Text.segments name = [segment]) :
    schema.column? name =
      match schema.endingIn name with
      | [] => .ok none
      | [field] => .ok (some field)
      | fields =>
        .error (.ambiguousField (schema.fold name) schema.label (fields.map Field.name)) := by
  rcases ending : schema.endingIn name with _ | ⟨first, _ | ⟨second, rest⟩⟩
  all_goals
    unfold endingIn at ending
    simp only [column?, missing, parts, ending]

section Following

variable {other : Schema}

/-- A step into a `STRUCT` depends on the case policy alone. -/
theorem member_congr (same : schema.casePolicy = other.casePolicy) (parent : SqlType)
    (field path : String) : schema.member parent field path = other.member parent field path := by
  simp only [member, fold, same]

theorem follow_congr (same : schema.casePolicy = other.casePolicy) (path : String)
    (type : SqlType) (segments : List String) :
    schema.follow path type segments = other.follow path type segments := by
  induction segments generalizing path type with
  | nil => rfl
  | cons segment rest ih => simp only [follow, member_congr same, fold, same, ih]

end Following

end QueryTyping.Schema
