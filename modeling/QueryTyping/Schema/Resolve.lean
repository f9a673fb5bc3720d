import QueryTyping.Schema
import QueryTyping.Text.Dotted
import QueryTyping.TypeError

/-! Finding columns by name. A dotted name may be the name of a column, may begin with the name of
the relation, and may go on into nested `STRUCT`s; the longest beginning that names a column counts
and is not given up for a shorter one. -/

namespace QueryTyping

/-- The field that a name means at one level. -/
def CasePolicy.find? (policy : CasePolicy) (name : String) (fields : List Field) : Option Field :=
  fields.find? (policy.agree ·.name name)

/-- A column or a member below it, with the path that diagnostics show. -/
structure ResolvedColumn where
  path : String
  type : SqlType
  deriving DecidableEq

namespace Schema

/-- The column that a whole name stands for. A column may carry a dotted name of its own; a single
segment then means the only such column that ends in it. The relation's name may stand in front. -/
def column? (schema : Schema) (name : String) : Except Cause (Option Field) :=
  let policy := schema.casePolicy
  match policy.find? name schema.fields with
  | some field => .ok (some field)
  | none =>
    match Text.segments name with
    | qualifier :: next :: rest =>
      if schema.name.any (policy.agree · qualifier) then
        .ok (policy.find? (Text.dotted (next :: rest)) schema.fields)
      else .ok none
    | _ =>
      let endsIn (field : Field) := (Text.lastSegment? field.name).any (policy.agree · name)
      match schema.fields.filter endsIn with
      | [] => .ok none
      | [field] => .ok (some field)
      | fields => .error (.ambiguousField (schema.fold name) schema.label (fields.map Field.name))

/-- The relation's name and a point stand before a column's name, unless that is dotted itself. -/
def columnPath (schema : Schema) (field : Field) : String :=
  match schema.name with
  | some relation => if Text.hasDot field.name then field.name else relation ++ "." ++ field.name
  | none => field.name

/-- The member of a `STRUCT`. The path is that of the parent and only serves the diagnostic. -/
def member (schema : Schema) (parent : SqlType) (field path : String) : Except Cause SqlType :=
  match parent.fields? with
  | none => .error (.notStruct (schema.fold field) path parent)
  | some fields =>
    match schema.casePolicy.find? field fields with
    | some found => .ok found.type
    | none => .error (.fieldNotFound (schema.fold field) path)

def follow (schema : Schema) (path : String) (type : SqlType) :
    List String → Except Cause ResolvedColumn
  | [] => .ok { path, type }
  | segment :: rest => do
    let inner ← schema.member type segment path
    schema.follow (path ++ "." ++ schema.fold segment) inner rest

/-- Tries the beginnings of a name in turn and follows the rest of the name from the first one that
is a column. -/
def firstColumn (schema : Schema) (name : String) :
    List (List String × List String) → Except Cause ResolvedColumn
  | [] => .error (.fieldNotFound (schema.fold name) schema.label)
  | (front, rest) :: shorter => do
    match ← schema.column? (Text.dotted front) with
    | some field => schema.follow (schema.columnPath field) field.type rest
    | none => schema.firstColumn name shorter

def resolveColumn (schema : Schema) (name : String) : Except Cause ResolvedColumn :=
  schema.firstColumn name (Text.fronts (Text.segments name))

end Schema

/-- What a subscript of a value selects. The path only serves the diagnostic. -/
def SqlType.element (parent : SqlType) (path : String) : Except Cause SqlType :=
  match parent.element? with
  | some type => .ok type
  | none => .error (.notArray path parent)

end QueryTyping
