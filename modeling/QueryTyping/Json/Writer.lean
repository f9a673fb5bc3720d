import QueryTyping.Json
import QueryTyping.Decimal.Text

/-! JSON values as text on one line. -/

namespace QueryTyping.Json

/-- Numbers are written like other doubles; there are none for infinity and NaN. -/
def floatFormat : Decimal.Format where
  leastPositional := -5
  leastScientific := 16
  infinity := "null"
  noNumber := "null"

def codeUnitText (code : Nat) : String :=
  let digits := Nat.toDigits 16 code
  String.ofList (List.replicate (4 - digits.length) '0' ++ digits)

def escapeCharacter (c : Char) : String :=
  if c = '"' then "\\\""
  else if c = '\\' then "\\\\"
  else if c.toNat < 0x20 then "\\u" ++ codeUnitText c.toNat
  else String.singleton c

def quoted (text : String) : String :=
  "\"" ++ String.join (text.toList.map escapeCharacter) ++ "\""

mutual

def text : Json → String
  | null => "null"
  | bool value => if value then "true" else "false"
  | int value => toString value
  | float value => floatFormat.text value.toBits.toNat
  | string value => quoted value
  | array items => "[" ++ ",".intercalate (itemTexts items) ++ "]"
  | object members => "\x7b" ++ ",".intercalate (memberTexts members) ++ "\x7d"

def itemTexts : List Json → List String
  | [] => []
  | item :: rest => item.text :: itemTexts rest

def memberTexts : Members → List String
  | [] => []
  | (key, value) :: rest => (quoted key ++ ":" ++ value.text) :: memberTexts rest

end

end QueryTyping.Json
