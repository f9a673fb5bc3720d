import QueryTyping.Expr

/-! Expressions as text, either as they were written or with their names folded. -/

namespace QueryTyping.Expr

/-- How a rendering changes the names of columns, qualifiers and fields, and of functions. -/
structure Naming where
  identifier : String → String
  function : String → String

/-- A subquery lists its columns in place of the query, which is not known. -/
def subqueryText (schema : Schema) : String :=
  let source :=
    match schema.name with
    | some relation => " FROM " ++ relation
    | none => ""
  "(SELECT " ++ ", ".intercalate (schema.fields.map Field.name) ++ source ++ ")"

/-- A connective with one operand is written before it, any other between its operands. -/
def logicalText (symbol : String) : List String → String
  | [operand] => "(" ++ symbol ++ " " ++ operand ++ ")"
  | operands => "(" ++ (" " ++ symbol ++ " ").intercalate operands ++ ")"

def binaryText (left symbol right : String) : String :=
  "(" ++ left ++ " " ++ symbol ++ " " ++ right ++ ")"

mutual

def render (naming : Naming) : Expr → String
  | literal _ value => value.text
  | column _ qualifier name =>
    qualifiedName (qualifier.map naming.identifier) (naming.identifier name)
  | arithmetic _ op left right => binaryText (left.render naming) op.symbol (right.render naming)
  | comparison _ op left right => binaryText (left.render naming) op.symbol (right.render naming)
  | like _ op value pattern => binaryText (value.render naming) op.symbol (pattern.render naming)
  | logical _ op operands => logicalText op.symbol (renderAll naming operands)
  | call _ function arguments =>
    naming.function function ++ "(" ++ ", ".intercalate (renderAll naming arguments) ++ ")"
  | fieldAccess _ base field => base.render naming ++ "->" ++ naming.identifier field
  | subscript _ base index => base.render naming ++ "[" ++ index.render naming ++ "]"
  | subquery _ schema => subqueryText schema

def renderAll (naming : Naming) : List Expr → List String
  | [] => []
  | expr :: rest => expr.render naming :: renderAll naming rest

end

def text (expr : Expr) : String :=
  expr.render { identifier := id, function := id }

/-- Function names ignore case under every policy, so they are always folded. -/
def canonical (policy : CasePolicy) (expr : Expr) : String :=
  expr.render { identifier := policy.fold, function := Text.upper }

end QueryTyping.Expr
