/-! The operators of the expression language and their symbols. -/

namespace QueryTyping

inductive ArithmeticOp where
  | add
  | sub
  | mul
  | div
  | mod
  deriving DecidableEq, Repr

inductive ComparisonOp where
  | eq
  | ne
  | lt
  | le
  | gt
  | ge
  deriving DecidableEq, Repr

inductive LikeOp where
  | like
  | notLike
  deriving DecidableEq, Repr

inductive LogicalOp where
  | and
  | or
  | not
  deriving DecidableEq, Repr

def ArithmeticOp.symbol : ArithmeticOp → String
  | add => "+"
  | sub => "-"
  | mul => "*"
  | div => "/"
  | mod => "%"

def ComparisonOp.symbol : ComparisonOp → String
  | eq => "="
  | ne => "<>"
  | lt => "<"
  | le => "<="
  | gt => ">"
  | ge => ">="

/-- The comparisons that ask for equality and not for an order. -/
def ComparisonOp.isEquality : ComparisonOp → Bool
  | eq | ne => true
  | _ => false

def LikeOp.symbol : LikeOp → String
  | like => "LIKE"
  | notLike => "NOT LIKE"

def LogicalOp.symbol : LogicalOp → String
  | and => "AND"
  | or => "OR"
  | not => "NOT"

def LogicalOp.arity : LogicalOp → Nat
  | not => 1
  | and | or => 2

end QueryTyping
