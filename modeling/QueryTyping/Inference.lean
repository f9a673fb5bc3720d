import QueryTyping.Expr.Text
import QueryTyping.Function.Catalog
import QueryTyping.Operator.Typing
import QueryTyping.Schema.Resolve

/-! The type of an expression over the rows of one schema. Operands are typed from left to right
and the first error ends the search. An error gets the position of the innermost node that has one,
from the node that raised it outwards. -/

namespace QueryTyping

structure InferenceOptions where
  maxDepth : Nat := 1000
  deriving DecidableEq, Repr

/-- What stays the same while an expression is walked. -/
structure Environment where
  schema : Schema
  catalog : Catalog
  options : InferenceOptions := {}

/-- How diagnostics call a value. A column and what is reached from it by fields and subscripts has
the path of that navigation, anything else its own text. -/
def Expr.path (schema : Schema) : Expr → String
  | .column span qualifier name =>
    match schema.resolveColumn (qualifiedName qualifier name) with
    | .ok found => found.path
    | .error _ => (Expr.column span qualifier name).canonical schema.casePolicy
  | .fieldAccess _ base field => base.path schema ++ "." ++ schema.fold field
  | .subscript _ base index =>
    base.path schema ++ "[" ++ index.canonical schema.casePolicy ++ "]"
  | expr => expr.canonical schema.casePolicy

/-- An `ARRAY` is subscripted by an integer, a `MAP` by what promotes to its key. -/
def SqlType.checkIndex (container index : SqlType) (path : String) : Except Cause Unit :=
  match container with
  | .array _ => if index.isIntegral then .ok () else .error (.arrayIndex path index)
  | .map key _ => if index.promotes key then .ok () else .error (.mapKey path key index)
  | _ => .ok ()

/-- A scalar subquery has the type of its only column. -/
def Schema.scalarType (schema : Schema) : Except Cause SqlType :=
  match schema.fields with
  | [column] => .ok column.type
  | columns => .error (.subqueryColumns columns.length)

namespace Environment

mutual

/-- The type of a node that stands `depth` levels deep, the root standing at level one. -/
def inferAt (environment : Environment) (depth : Nat) (expr : Expr) : Except TypeError SqlType :=
  if environment.options.maxDepth < depth then
    .error { cause := .nestingTooDeep environment.options.maxDepth, span := expr.span }
  else
    Except.mapError (TypeError.locate expr.span) <|
      match expr with
      | .literal _ value => .ok value.type
      | .column _ qualifier name =>
        unplaced (ResolvedColumn.type <$>
          environment.schema.resolveColumn (Expr.qualifiedName qualifier name))
      | .arithmetic _ op left right => do
        let left ← environment.inferAt (depth + 1) left
        let right ← environment.inferAt (depth + 1) right
        unplaced (op.result left right)
      | .comparison _ op left right => do
        let left ← environment.inferAt (depth + 1) left
        let right ← environment.inferAt (depth + 1) right
        unplaced (op.result left right)
      | .like _ op value pattern => do
        let value ← environment.inferAt (depth + 1) value
        let pattern ← environment.inferAt (depth + 1) pattern
        unplaced (op.result value pattern)
      | .logical _ op operands =>
        if operands.length = op.arity then do
          let types ← environment.inferAll (depth + 1) operands
          unplaced (op.result types)
        else .error { cause := .operandCount op operands.length }
      | .call _ function arguments => do
        let types ← environment.inferAll (depth + 1) arguments
        environment.catalog.resolve function types
      | .fieldAccess _ base field => do
        let container ← environment.inferAt (depth + 1) base
        unplaced (environment.schema.member container field (base.path environment.schema))
      | .subscript _ base index => do
        let container ← environment.inferAt (depth + 1) base
        let key ← environment.inferAt (depth + 1) index
        let element ← unplaced (container.element (base.path environment.schema))
        Except.mapError (TypeError.locate index.span) <|
          unplaced (container.checkIndex key (base.path environment.schema))
        return element
      | .subquery _ schema => unplaced schema.scalarType
termination_by structural expr

def inferAll (environment : Environment) (depth : Nat) :
    List Expr → Except TypeError (List SqlType)
  | [] => .ok []
  | expr :: rest => do
    let type ← environment.inferAt depth expr
    let types ← environment.inferAll depth rest
    return type :: types
termination_by structural exprs => exprs

end

def infer (environment : Environment) (expr : Expr) : Except TypeError SqlType :=
  environment.inferAt 1 expr

end Environment

end QueryTyping
