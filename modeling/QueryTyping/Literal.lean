import QueryTyping.Decimal.Text
import QueryTyping.SqlType

/-! Constants in expressions. -/

namespace QueryTyping

inductive Literal where
  | integer (value : Int32)
  | long (value : Int64)
  | double (value : Float)
  | string (value : String)
  | boolean (value : Bool)

namespace Literal

/-- Doubles are written in full from `0.0001` up to, but not at, `1e16`. -/
def doubleFormat : Decimal.Format where
  leastPositional := -4
  leastScientific := 16
  infinity := "inf"
  noNumber := "NaN"

/-- The narrowest integral literal that holds the value. -/
def ofInt64 (value : Int64) : Literal :=
  if Int32.minValue.toInt ≤ value.toInt && value.toInt ≤ Int32.maxValue.toInt then
    integer value.toInt32
  else long value

def type : Literal → SqlType
  | integer _ => .int32
  | long _ => .int64
  | double _ => .float64
  | string _ => .string
  | boolean _ => .boolean

/-- Equality as numbers for doubles: the two zeros are equal, and NaN is not equal to itself. -/
def same : Literal → Literal → Bool
  | integer left, integer right => left == right
  | long left, long right => left == right
  | double left, double right => left == right
  | string left, string right => left == right
  | boolean left, boolean right => left == right
  | _, _ => false

def doubleQuotes : List Char → List Char
  | [] => []
  | c :: rest => if c = '\'' then c :: c :: doubleQuotes rest else c :: doubleQuotes rest

def text : Literal → String
  | integer value => toString value.toInt
  | long value => toString value.toInt
  | double value => doubleFormat.text value.toBits.toNat
  | string value => "'" ++ String.ofList (doubleQuotes value.toList) ++ "'"
  | boolean true => "true"
  | boolean false => "false"

end Literal

end QueryTyping
