import QueryTyping.Operator
import QueryTyping.SqlType

/-! What can be wrong with an expression, where it was found, and the sentence that a reader is
shown. The place is kept beside the cause and is never part of the sentence. -/

namespace QueryTyping

/-- A position in the source of an expression, as its parser reported it. -/
structure Span where
  line : UInt32
  column : UInt32
  deriving DecidableEq, Repr

def Span.text (span : Span) : String :=
  s!"line {span.line.toNat}, column {span.column.toNat}"

inductive ErrorKind where
  | fieldNotFound
  | ambiguousField
  | notStructType
  | notArrayType
  | typeMismatch
  | unknownFunction
  | noMatchingSignature
  | unsupportedExpression
  | nestingTooDeep
  deriving DecidableEq, Repr

def ErrorKind.name : ErrorKind → String
  | fieldNotFound => "FieldNotFound"
  | ambiguousField => "AmbiguousField"
  | notStructType => "NotStructType"
  | notArrayType => "NotArrayType"
  | typeMismatch => "TypeMismatch"
  | unknownFunction => "UnknownFunction"
  | noMatchingSignature => "NoMatchingSignature"
  | unsupportedExpression => "UnsupportedExpression"
  | nestingTooDeep => "NestingTooDeep"

/-- Why an expression has no type. Names, paths and types are those that the sentence shows. -/
inductive Cause where
  | fieldNotFound (field path : String)
  | ambiguousField (field path : String) (candidates : List String)
  | notStruct (field path : String) (found : SqlType)
  | notArray (path : String) (found : SqlType)
  | operands (symbol : String) (left right : SqlType)
  | notBoolean (operator : LogicalOp) (found : SqlType)
  | arrayIndex (path : String) (found : SqlType)
  | mapKey (path : String) (key found : SqlType)
  | noNumericArgument (function : String)
  | notIndexable (function : String) (position : Nat) (found : SqlType)
  | mismatch (message : String)
  | unknownFunction (name : String)
  | noMatchingSignature (name : String) (arguments : List SqlType)
  | operandCount (operator : LogicalOp) (found : Nat)
  | subqueryColumns (found : Nat)
  | missingArgument (function : String) (position : Nat)
  | unsupported (message : String)
  | nestingTooDeep (limit : Nat)
  deriving DecidableEq

namespace Cause

def kind : Cause → ErrorKind
  | fieldNotFound .. => .fieldNotFound
  | ambiguousField .. => .ambiguousField
  | notStruct .. => .notStructType
  | notArray .. => .notArrayType
  | operands .. | notBoolean .. | arrayIndex .. | mapKey .. | noNumericArgument .. | notIndexable ..
  | mismatch .. => .typeMismatch
  | unknownFunction .. => .unknownFunction
  | noMatchingSignature .. => .noMatchingSignature
  | operandCount .. | subqueryColumns .. | missingArgument .. | unsupported .. =>
    .unsupportedExpression
  | nestingTooDeep .. => .nestingTooDeep

/-- Positions of arguments are counted from one here. -/
def message : Cause → String
  | fieldNotFound field path => s!"Could not find field {field} in {path}."
  | ambiguousField field path candidates =>
    s!"Field {field} is ambiguous in {path}. Candidates are " ++ ", ".intercalate candidates ++ "."
  | notStruct field path found =>
    s!"Cannot access field {field} of {path}: expected a STRUCT but found {found}."
  | notArray path found =>
    s!"Cannot subscript {path}: expected an ARRAY or MAP but found {found}."
  | operands symbol left right => s!"Operator {symbol} cannot be applied to {left} and {right}."
  | notBoolean operator found =>
    s!"Operator {operator.symbol} requires BOOLEAN operands but found {found}."
  | arrayIndex path found =>
    s!"Array index of {path} must be INT32 or INT64 but found {found}."
  | mapKey path key found => s!"Map key of {path} must be {key} but found {found}."
  | noNumericArgument function =>
    s!"Function '{function}' requires at least one numeric argument."
  | notIndexable function position found =>
    s!"Function '{function}' expects an ARRAY or MAP at argument {position + 1} but found {found}."
  | mismatch message => message
  | unknownFunction name => s!"Can't find any functions with the name '{name}'."
  | noMatchingSignature name arguments =>
    s!"Function '{name}' does not accept parameters of types (" ++
      ", ".intercalate (arguments.map SqlType.text) ++ ")."
  | operandCount operator found =>
    s!"Operator {operator.symbol} expects {operator.arity} operand(s) but found {found}."
  | subqueryColumns found =>
    s!"Subquery must return exactly one column but returns {found}."
  | missingArgument function position =>
    s!"Function '{function}' has no argument at position {position + 1}."
  | unsupported message => message
  | nestingTooDeep limit => s!"Expression nesting exceeds the maximum depth of {limit}."

end Cause

/-- A cause together with the innermost known position. -/
structure TypeError where
  cause : Cause
  span : Option Span := none
  deriving DecidableEq

namespace TypeError

def kind (error : TypeError) : ErrorKind :=
  error.cause.kind

def message (error : TypeError) : String :=
  error.cause.message

/-- Places an error that has no position yet; a more precise position is kept. -/
def locate (span : Option Span) (error : TypeError) : TypeError :=
  { error with span := error.span.or span }

end TypeError

/-- Takes over a result of rules that know no positions. -/
def unplaced (result : Except Cause α) : Except TypeError α :=
  result.mapError fun cause => { cause }

end QueryTyping
