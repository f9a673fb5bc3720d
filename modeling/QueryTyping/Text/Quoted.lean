import QueryTyping.Text.Visible

/-! Quoted text in which nothing is hidden: every character that cannot be seen where it stands, or
that changes the character before it, is written by its number. -/

namespace QueryTyping.Text

def quoteCharacter (c : Char) : String :=
  match c with
  | '\x00' => "\\0"
  | '\t' => "\\t"
  | '\n' => "\\n"
  | '\r' => "\\r"
  | '"' => "\\\""
  | '\\' => "\\\\"
  | c =>
    if isVisible c then String.singleton c
    else "\\u\x7b" ++ String.ofList (Nat.toDigits 16 c.toNat) ++ "\x7d"

def quoted (text : String) : String :=
  "\"" ++ String.join (text.toList.map quoteCharacter) ++ "\""

end QueryTyping.Text
