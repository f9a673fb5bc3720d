import QueryTyping.CasePolicy
import QueryTyping.SqlType
import QueryTyping.Text.Blank

/-! The shape of a relation's row: its columns, the name of the relation if it has one, and how
names are compared. Building a schema folds every name and refuses blank or repeated field names at
any level, so that a look-up never meets them. -/

namespace QueryTyping

/-- Why a row is refused. The path leads to the level at which the field stands. -/
inductive SchemaError where
  | duplicateField (field path : String)
  | emptyFieldName (path : String)
  deriving DecidableEq, Repr

def SchemaError.message : SchemaError → String
  | duplicateField field path => s!"Duplicate field {field} in {path}."
  | emptyFieldName path => s!"Empty field name in {path}."

mutual

/-- Checks the fields of one level in order, each before those that follow it and with everything
below it. `earlier` holds the names already seen at this level. -/
def Field.checkAll (policy : CasePolicy) (path : String) (earlier : List String) :
    List Field → Except SchemaError Unit
  | [] => .ok ()
  | ⟨name, type, _⟩ :: rest =>
    if Text.isBlankText name then .error (.emptyFieldName path)
    else if earlier.any (policy.agree · name) then .error (.duplicateField name path)
    else do
      SqlType.check policy (path ++ "." ++ name) type
      Field.checkAll policy path (name :: earlier) rest

/-- Only a `STRUCT` opens a level of its own; arrays and maps leave the path as it is. -/
def SqlType.check (policy : CasePolicy) (path : String) : SqlType → Except SchemaError Unit
  | .struct fields => Field.checkAll policy path [] fields
  | .array items => items.check policy path
  | .map key value => do
    key.check policy path
    value.check policy path
  | _ => .ok ()

end

/-- How diagnostics call a row whose relation may have no name. -/
def relationLabel (name : Option String) : String :=
  name.getD "schema"

structure Schema where
  name : Option String
  fields : List Field
  casePolicy : CasePolicy
  folded : name.map casePolicy.fold = name ∧ Field.renameAll casePolicy.fold fields = fields
  accepted : Field.checkAll casePolicy (relationLabel name) [] fields = .ok ()
  deriving DecidableEq

namespace Schema

def build (name : Option String) (fields : List Field) (policy : CasePolicy) :
    Except SchemaError Schema :=
  let label := name.map policy.fold
  let row := Field.renameAll policy.fold fields
  match checked : Field.checkAll policy (relationLabel label) [] row with
  | .error error => .error error
  | .ok () => .ok {
      name := label
      fields := row
      casePolicy := policy
      folded := ⟨by simp [label, Function.comp_def],
        Field.renameAll_renameAll policy.fold_fold fields⟩
      accepted := checked }

/-- A row of unquoted names that belongs to no relation. -/
def ofFields (fields : List Field) : Except SchemaError Schema :=
  build none fields default

def label (schema : Schema) : String :=
  relationLabel schema.name

def rowType (schema : Schema) : SqlType :=
  .struct schema.fields

def fold (schema : Schema) (name : String) : String :=
  schema.casePolicy.fold name

end Schema

end QueryTyping
