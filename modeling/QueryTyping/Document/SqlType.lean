import QueryTyping.Document.Form

/-! Types and fields as documents. A type names its kind in `type`; a field holds the members of
its type beside its own. Scalars pass over members that they do not know, composites refuse them. -/

namespace QueryTyping

/-- The kinds of types in the order of their numbers. -/
def SqlType.kinds : List String :=
  ["int32", "int64", "float64", "string", "boolean", "array", "map", "struct"]

/-- The form of a type of a given kind, once the members that hold types and fields are read. -/
def SqlType.form (kind : String) (type : String → Option (Except Refusal SqlType))
    (fields : Option (Except Refusal (List Field))) : Form SqlType :=
  match kind with
  | "int32" => pure .int32
  | "int64" => pure .int64
  | "float64" => pure .float64
  | "string" => pure .string
  | "boolean" => pure .boolean
  | "array" => array <$> Form.required "items" (type "items")
  | "map" => map <$> Form.required "key" (type "key") <*> Form.required "value" (type "value")
  | "struct" => struct <$> Form.required "fields" fields
  | _ => { value := none }

def SqlType.keysOf (kind : String) : List String :=
  (SqlType.form kind (fun _ => none) none).keys

/-- What the members of a type describe. Members in `others` do not belong to the type. -/
def SqlType.ofMembers (others : List String) (members : Json.Members)
    (type : String → Option (Except Refusal SqlType))
    (fields : Option (Except Refusal (List Field))) : Except Refusal SqlType :=
  match (members.only? "type").bind (Json.nestedTag? SqlType.kinds) with
  | some kind =>
    let form := SqlType.form kind type fields
    if form.keys.isEmpty then form.read members else form.readClosed ("type" :: others) members
  | none => .error .shape

def Field.ofMembers (members : Json.Members) (type : Except Refusal SqlType) :
    Except Refusal Field := do
  let (name, nullable) ← Form.read members (Prod.mk
    <$> Form.required "name" (members.find "name" Json.readString)
    <*> Form.optional "nullable" true (members.find "nullable" Json.readBool))
  return { name, type := ← type, nullable }

mutual

/-- A type inside another document. -/
def SqlType.ofNestedJson : Json → Except Refusal SqlType
  | .object members =>
    SqlType.ofMembers [] members (SqlType.atKey members) (Field.listAt members "fields")
  | .array (tag :: items) =>
    match Json.nestedTag? SqlType.kinds tag with
    | some kind =>
      let keys := SqlType.keysOf kind
      let form := SqlType.form kind (SqlType.atPlace items keys) (Field.listAtPlace items keys "fields")
      Json.readRecord keys form.read (.array items)
    | none => .error .shape
  | _ => .error .shape
termination_by structural document => document

/-- A field is always an object, since it holds the members of its type. -/
def Field.ofJson : Json → Except Refusal Field
  | .object members =>
    Field.ofMembers members <| SqlType.ofMembers ["name", "nullable"] members
      (SqlType.atKey members) (Field.listAt members "fields")
  | _ => .error .shape
termination_by structural document => document

def SqlType.atKey : Json.Members → String → Option (Except Refusal SqlType)
  | [], _ => none
  | (name, document) :: rest, key =>
    if name = key then some (SqlType.ofNestedJson document) else SqlType.atKey rest key
termination_by structural members => members

def Field.listAt : Json.Members → String → Option (Except Refusal (List Field))
  | [], _ => none
  | (name, .array documents) :: rest, key =>
    if name = key then some (Field.listOf documents) else Field.listAt rest key
  | (name, _) :: rest, key => if name = key then some (.error .shape) else Field.listAt rest key
termination_by structural members => members

def SqlType.atPlace : List Json → List String → String → Option (Except Refusal SqlType)
  | document :: rest, name :: names, key =>
    if name = key then some (SqlType.ofNestedJson document) else SqlType.atPlace rest names key
  | _, _, _ => none
termination_by structural items => items

def Field.listAtPlace : List Json → List String → String → Option (Except Refusal (List Field))
  | .array documents :: rest, name :: names, key =>
    if name = key then some (Field.listOf documents) else Field.listAtPlace rest names key
  | _ :: rest, name :: names, key =>
    if name = key then some (.error .shape) else Field.listAtPlace rest names key
  | _, _, _ => none
termination_by structural items => items

def Field.listOf : List Json → Except Refusal (List Field)
  | [] => .ok []
  | document :: rest => do
    let field ← Field.ofJson document
    let fields ← Field.listOf rest
    return field :: fields
termination_by structural documents => documents

end

/-- A type that is a document of its own, and so is read as it comes. -/
def SqlType.ofJson (document : Json) : Except Refusal SqlType :=
  match document.tag? "type" with
  | some (.string _) => SqlType.ofNestedJson document
  | _ => .error .shape

mutual

def SqlType.members : SqlType → Json.Members
  | .int32 => [("type", .string "int32")]
  | .int64 => [("type", .string "int64")]
  | .float64 => [("type", .string "float64")]
  | .string => [("type", .string "string")]
  | .boolean => [("type", .string "boolean")]
  | .array items => [("type", .string "array"), ("items", .object items.members)]
  | .map key value =>
    [("type", .string "map"), ("key", .object key.members), ("value", .object value.members)]
  | .struct fields => [("type", .string "struct"), ("fields", .array (Field.documents fields))]

def Field.documents : List Field → List Json
  | [] => []
  | ⟨name, type, nullable⟩ :: rest =>
    .object (("name", .string name) :: ("nullable", .bool nullable) :: type.members) ::
      Field.documents rest

end

def SqlType.toJson (type : SqlType) : Json :=
  .object type.members

end QueryTyping
