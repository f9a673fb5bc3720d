import QueryTyping.Document.SqlType

/-! Schemas as documents. A document that describes a row is built into a schema at once, so that a
schema read from a document is as valid as any other. -/

namespace QueryTyping

def CasePolicy.named : String → Option CasePolicy
  | "sensitive" => some .sensitive
  | "insensitive" => some .insensitive
  | _ => none

def CasePolicy.name : CasePolicy → String
  | sensitive => "sensitive"
  | insensitive => "insensitive"

def CasePolicy.ofJson : Json → Except Refusal CasePolicy :=
  Json.readName CasePolicy.named

/-- The case policy of a row that a subquery returns. -/
def CasePolicy.ofNestedJson : Json → Except Refusal CasePolicy :=
  Json.readNestedName CasePolicy.named

namespace Schema

def rowForm (policy : Json → Except Refusal CasePolicy) (members : Json.Members) :
    Form (Option String × List Field × CasePolicy) :=
  (fun name fields policy => (name, fields, policy))
    <$> Form.optional "name" none (members.find "name" (Json.readNullable Json.readString))
    <*> Form.required "fields" (members.find "fields" (Json.readList Field.ofJson))
    <*> Form.optional "caseSensitivity" default (members.find "caseSensitivity" policy)

def ofRow (policy : Json → Except Refusal CasePolicy) (document : Json) :
    Except Refusal Schema := do
  let (name, fields, policy) ← Form.readClosedRecord (rowForm policy) document
  (build name fields policy).mapError .schema

def ofJson : Json → Except Refusal Schema :=
  ofRow CasePolicy.ofJson

def ofNestedJson : Json → Except Refusal Schema :=
  ofRow CasePolicy.ofNestedJson

def ofText (text : String) : Except Refusal Schema :=
  Json.readText ofJson text

def toJson (schema : Schema) : Json :=
  let row : Json.Members :=
    [("fields", .array (Field.documents schema.fields)),
      ("caseSensitivity", .string schema.casePolicy.name)]
  .object <|
    match schema.name with
    | some name => ("name", .string name) :: row
    | none => row

end Schema

end QueryTyping
