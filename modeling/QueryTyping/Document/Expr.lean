import QueryTyping.Document.Schema
import QueryTyping.Expr

/-! Expressions as documents. A node names its kind in `kind` and may hold members that its kind
does not know. Of two faults the one that comes first in the document counts, so only a subquery
that is reached before any other fault can say what is wrong with its row. -/

namespace QueryTyping

def ArithmeticOp.named : String → Option ArithmeticOp
  | "add" => some .add
  | "sub" => some .sub
  | "mul" => some .mul
  | "div" => some .div
  | "mod" => some .mod
  | _ => none

def ArithmeticOp.name : ArithmeticOp → String
  | add => "add"
  | sub => "sub"
  | mul => "mul"
  | div => "div"
  | mod => "mod"

def ComparisonOp.named : String → Option ComparisonOp
  | "eq" => some .eq
  | "ne" => some .ne
  | "lt" => some .lt
  | "le" => some .le
  | "gt" => some .gt
  | "ge" => some .ge
  | _ => none

def ComparisonOp.name : ComparisonOp → String
  | eq => "eq"
  | ne => "ne"
  | lt => "lt"
  | le => "le"
  | gt => "gt"
  | ge => "ge"

def LogicalOp.named : String → Option LogicalOp
  | "and" => some .and
  | "or" => some .or
  | "not" => some .not
  | _ => none

def LogicalOp.name : LogicalOp → String
  | and => "and"
  | or => "or"
  | not => "not"

def LikeOp.name : LikeOp → String
  | like => "like"
  | notLike => "not_like"

def Span.form (members : Json.Members) : Form Span :=
  let word := Json.readBelow (Nat.pow 2 32)
  (fun line column => { line := .ofNat line, column := .ofNat column })
    <$> Form.required "line" (members.find "line" word)
    <*> Form.required "column" (members.find "column" word)

def Span.ofJson : Json → Except Refusal Span :=
  Form.readRecord Span.form

def Span.toJson (span : Span) : Json :=
  .object [("line", .int span.line.toNat), ("column", .int span.column.toNat)]

namespace Literal

def ofValue (type : String) (value : Json) : Except Refusal Literal :=
  match type, value with
  | "integer", .int value =>
    if Int32.minValue.toInt ≤ value && value ≤ Int32.maxValue.toInt then
      .ok (integer (Int32.ofInt value))
    else .error .shape
  | "long", .int value =>
    if Int64.minValue.toInt ≤ value && value ≤ Int64.maxValue.toInt then
      .ok (long (Int64.ofInt value))
    else .error .shape
  | "double", value => double <$> Json.readFloat value
  | "string", value => string <$> Json.readString value
  | "boolean", value => boolean <$> Json.readBool value
  | _, _ => .error .shape

def form (members : Json.Members) : Form (String × Json) :=
  Prod.mk
    <$> Form.required "type" (members.find "type" (Json.readNestedName some))
    <*> Form.required "value" (members.find "value" .ok)

def ofJson (document : Json) : Except Refusal Literal := do
  let (type, value) ← Form.readRecord form document
  ofValue type value

/-- JSON has no numbers for infinity and NaN. -/
def toJson (literal : Literal) : Json :=
  let tagged (type : String) (value : Json) : Json :=
    .object [("type", .string type), ("value", value)]
  match literal with
  | integer value => tagged "integer" (.int value.toInt)
  | long value => tagged "long" (.int value.toInt)
  | double value => tagged "double" (if value.isFinite then .float value else .null)
  | string value => tagged "string" (.string value)
  | boolean value => tagged "boolean" (.bool value)

end Literal

namespace Expr

/-- The kinds of nodes in the order of their numbers. -/
def kinds : List String :=
  ["literal", "column", "arithmetic", "comparison", "like", "not_like", "logical", "function_call",
    "field_access", "subscript", "subquery"]

/-- The form of a node of a given kind, once the members that hold expressions are read. -/
def form (kind : String) (members : Json.Members) (expr : String → Option (Except Refusal Expr))
    (exprs : String → Option (Except Refusal (List Expr))) : Form Expr :=
  let span := Form.optional "span" none (members.find "span" (Json.readNullable Span.ofJson))
  let operand (key : String) := Form.required key (expr key)
  let text (key : String) := Form.required key (members.find key Json.readString)
  let operator {Op : Type} (named : String → Option Op) :=
    Form.required "op" (members.find "op" (Json.readNestedName named))
  match kind with
  | "literal" => literal <$> span <*> Form.required "value" (members.find "value" Literal.ofJson)
  | "column" =>
    let qualifier := members.find "qualifier" (Json.readNullable Json.readString)
    column <$> span <*> Form.optional "qualifier" none qualifier <*> text "name"
  | "arithmetic" =>
    arithmetic <$> span <*> operator ArithmeticOp.named <*> operand "left" <*> operand "right"
  | "comparison" =>
    comparison <$> span <*> operator ComparisonOp.named <*> operand "left" <*> operand "right"
  | "like" => (like · .like) <$> span <*> operand "value" <*> operand "pattern"
  | "not_like" => (like · .notLike) <$> span <*> operand "value" <*> operand "pattern"
  | "logical" =>
    logical <$> span <*> operator LogicalOp.named <*> Form.required "operands" (exprs "operands")
  | "function_call" => call <$> span <*> text "name" <*> Form.optional "args" [] (exprs "args")
  | "field_access" => fieldAccess <$> span <*> operand "base" <*> text "field"
  | "subscript" => subscript <$> span <*> operand "base" <*> operand "index"
  | "subquery" =>
    subquery <$> span <*> Form.required "schema" (members.find "schema" Schema.ofNestedJson)
  | _ => { value := none }

def keysOf (kind : String) : List String :=
  (form kind [] (fun _ => none) (fun _ => none)).keys

mutual

/-- An expression inside another one. -/
def ofNestedJson : Json → Except Refusal Expr
  | .object members =>
    match (Json.Members.only? members "kind").bind (Json.nestedTag? kinds) with
    | some kind => Form.read members (form kind members (atKey members) (listAt members))
    | none => .error .shape
  | .array (tag :: items) =>
    match Json.nestedTag? kinds tag with
    | some kind =>
      let keys := keysOf kind
      Json.readRecord keys (fun members =>
        Form.read members (form kind members (atPlace items keys) (listAtPlace items keys)))
        (.array items)
    | none => .error .shape
  | _ => .error .shape
termination_by structural document => document

def atKey : Json.Members → String → Option (Except Refusal Expr)
  | [], _ => none
  | (name, document) :: rest, key =>
    if name = key then some (ofNestedJson document) else atKey rest key
termination_by structural members => members

def listAt : Json.Members → String → Option (Except Refusal (List Expr))
  | [], _ => none
  | (name, .array documents) :: rest, key =>
    if name = key then some (listOf documents) else listAt rest key
  | (name, _) :: rest, key => if name = key then some (.error .shape) else listAt rest key
termination_by structural members => members

def atPlace : List Json → List String → String → Option (Except Refusal Expr)
  | document :: rest, name :: names, key =>
    if name = key then some (ofNestedJson document) else atPlace rest names key
  | _, _, _ => none
termination_by structural items => items

def listAtPlace : List Json → List String → String → Option (Except Refusal (List Expr))
  | .array documents :: rest, name :: names, key =>
    if name = key then some (listOf documents) else listAtPlace rest names key
  | _ :: rest, name :: names, key =>
    if name = key then some (.error .shape) else listAtPlace rest names key
  | _, _, _ => none
termination_by structural items => items

def listOf : List Json → Except Refusal (List Expr)
  | [] => .ok []
  | document :: rest => do
    let expr ← ofNestedJson document
    let exprs ← listOf rest
    return expr :: exprs
termination_by structural documents => documents

end

/-- An expression that is a document of its own, and so is read as it comes. -/
def ofJson (document : Json) : Except Refusal Expr :=
  match document.tag? "kind" with
  | some (.string _) => ofNestedJson document
  | _ => .error .shape

def ofText (text : String) : Except Refusal Expr :=
  Json.readText ofJson text

def head (kind : String) (span : Option Span) : Json.Members :=
  ("kind", .string kind) ::
    match span with
    | some span => [("span", span.toJson)]
    | none => []

mutual

def toJson : Expr → Json
  | literal span value => .object (head "literal" span ++ [("value", value.toJson)])
  | column span qualifier name =>
    let relation : Json.Members :=
      match qualifier with
      | some qualifier => [("qualifier", .string qualifier)]
      | none => []
    .object (head "column" span ++ relation ++ [("name", .string name)])
  | arithmetic span op left right =>
    .object (head "arithmetic" span ++
      [("op", .string op.name), ("left", left.toJson), ("right", right.toJson)])
  | comparison span op left right =>
    .object (head "comparison" span ++
      [("op", .string op.name), ("left", left.toJson), ("right", right.toJson)])
  | like span op value pattern =>
    .object (head op.name span ++ [("value", value.toJson), ("pattern", pattern.toJson)])
  | logical span op operands =>
    .object (head "logical" span ++
      [("op", .string op.name), ("operands", .array (documents operands))])
  | call span function arguments =>
    .object (head "function_call" span ++
      [("name", .string function), ("args", .array (documents arguments))])
  | fieldAccess span base field =>
    .object (head "field_access" span ++ [("base", base.toJson), ("field", .string field)])
  | subscript span base index =>
    .object (head "subscript" span ++ [("base", base.toJson), ("index", index.toJson)])
  | subquery span schema => .object (head "subquery" span ++ [("schema", schema.toJson)])

def documents : List Expr → List Json
  | [] => []
  | expr :: rest => expr.toJson :: documents rest

end

end Expr

end QueryTyping
