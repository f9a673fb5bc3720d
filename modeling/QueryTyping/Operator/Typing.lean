import QueryTyping.SqlType.Numeric
import QueryTyping.TypeError

/-! What each operator accepts and returns. -/

namespace QueryTyping

/-- Arithmetic stays in the wider of its two numeric operand types. -/
def ArithmeticOp.result (op : ArithmeticOp) (left right : SqlType) : Except Cause SqlType :=
  match left.widen? right with
  | some wider => .ok wider
  | none => .error (.operands op.symbol left right)

/-- Numbers compare with numbers and strings with strings; booleans are equal or not, but have no
order. -/
def ComparisonOp.accepts (op : ComparisonOp) : SqlType → SqlType → Bool
  | .string, .string => true
  | .boolean, .boolean => op.isEquality
  | left, right => left.isNumeric && right.isNumeric

def ComparisonOp.result (op : ComparisonOp) (left right : SqlType) : Except Cause SqlType :=
  if op.accepts left right then .ok .boolean else .error (.operands op.symbol left right)

def LikeOp.result (op : LikeOp) (value pattern : SqlType) : Except Cause SqlType :=
  if value.isString && pattern.isString then .ok .boolean
  else .error (.operands op.symbol value pattern)

/-- Names the first operand that is no `BOOLEAN`. The number of operands is not looked at. -/
def LogicalOp.result (op : LogicalOp) (operands : List SqlType) : Except Cause SqlType :=
  match operands.find? (!·.isBoolean) with
  | some found => .error (.notBoolean op found)
  | none => .ok .boolean

end QueryTyping
