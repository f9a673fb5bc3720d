import QueryTyping.Literal
import QueryTyping.Schema
import QueryTyping.TypeError

/-! Expression trees. Every node may carry the position at which its parser found it. -/

namespace QueryTyping

/-- A scalar subquery is known only by the schema of its output row. -/
inductive Expr where
  | literal (span : Option Span) (value : Literal)
  | column (span : Option Span) (qualifier : Option String) (name : String)
  | arithmetic (span : Option Span) (op : ArithmeticOp) (left right : Expr)
  | comparison (span : Option Span) (op : ComparisonOp) (left right : Expr)
  | like (span : Option Span) (op : LikeOp) (value pattern : Expr)
  | logical (span : Option Span) (op : LogicalOp) (operands : List Expr)
  | call (span : Option Span) (function : String) (arguments : List Expr)
  | fieldAccess (span : Option Span) (base : Expr) (field : String)
  | subscript (span : Option Span) (base index : Expr)
  | subquery (span : Option Span) (schema : Schema)

namespace Expr

def span : Expr → Option Span
  | literal span _ | column span _ _ | arithmetic span _ _ _ | comparison span _ _ _
  | like span _ _ _ | logical span _ _ | call span _ _ | fieldAccess span _ _ | subscript span _ _
  | subquery span _ => span

/-- The same node at another position. The nodes below it keep theirs. -/
def withSpan (span : Option Span) : Expr → Expr
  | literal _ value => literal span value
  | column _ qualifier name => column span qualifier name
  | arithmetic _ op left right => arithmetic span op left right
  | comparison _ op left right => comparison span op left right
  | like _ op value pattern => like span op value pattern
  | logical _ op operands => logical span op operands
  | call _ function arguments => call span function arguments
  | fieldAccess _ base field => fieldAccess span base field
  | subscript _ base index => subscript span base index
  | subquery _ schema => subquery span schema

/-- The dotted name under which a column is looked up. -/
def qualifiedName (qualifier : Option String) (name : String) : String :=
  match qualifier with
  | some qualifier => qualifier ++ "." ++ name
  | none => name

mutual

/-- Equality of trees, positions included and doubles compared as numbers. -/
def same : Expr → Expr → Bool
  | literal span value, literal place other => span == place && value.same other
  | column span qualifier name, column place relation other =>
    span == place && qualifier == relation && name == other
  | arithmetic span op left right, arithmetic place operator first second =>
    span == place && op == operator && left.same first && right.same second
  | comparison span op left right, comparison place operator first second =>
    span == place && op == operator && left.same first && right.same second
  | like span op value pattern, like place operator first second =>
    span == place && op == operator && value.same first && pattern.same second
  | logical span op operands, logical place operator others =>
    span == place && op == operator && sameAll operands others
  | call span function arguments, call place other others =>
    span == place && function == other && sameAll arguments others
  | fieldAccess span base field, fieldAccess place other name =>
    span == place && base.same other && field == name
  | subscript span base index, subscript place other key =>
    span == place && base.same other && index.same key
  | subquery span schema, subquery place other => span == place && schema == other
  | _, _ => false

def sameAll : List Expr → List Expr → Bool
  | [], [] => true
  | expr :: rest, other :: others => expr.same other && sameAll rest others
  | _, _ => false

end

end Expr

end QueryTyping
