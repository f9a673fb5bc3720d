import QueryTyping.Function.Signature
import QueryTyping.Text.Quoted

/-! Types and return rules spelled out in full. Unlike the written form of a type, its outline shows
the null flags and leaves no doubt about where a name ends. -/

namespace QueryTyping

mutual

def SqlType.outline : SqlType → String
  | .int32 => "Int32"
  | .int64 => "Int64"
  | .float64 => "Float64"
  | .string => "String"
  | .boolean => "Boolean"
  | .array items => "Array \x7b items: " ++ items.outline ++ " \x7d"
  | .map key value => "Map \x7b key: " ++ key.outline ++ ", value: " ++ value.outline ++ " \x7d"
  | .struct fields =>
    "Struct \x7b fields: [" ++ ", ".intercalate (Field.outlines fields) ++ "] \x7d"

def Field.outlines : List Field → List String
  | [] => []
  | ⟨name, type, nullable⟩ :: rest =>
    ("Field \x7b name: " ++ Text.quoted name ++ ", ty: " ++ type.outline ++
      ", nullable: " ++ toString nullable ++ " \x7d") :: Field.outlines rest

end

/-- A custom rule is a function and has nothing to show. -/
def ReturnRule.outline : ReturnRule → String
  | fixed type => "Fixed(" ++ type.outline ++ ")"
  | sameAsArgument index => s!"SameAsArgument({index})"
  | widestNumeric => "WidestNumeric"
  | elementOf index => s!"ElementOf({index})"
  | custom _ => "Custom(..)"

end QueryTyping
