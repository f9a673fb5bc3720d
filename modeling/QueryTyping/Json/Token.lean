import QueryTyping.Decimal.Scaled

/-! The tokens of a JSON text. Reading them never fails: a text that stops being JSON ends in a
token that no value contains. -/

namespace QueryTyping.Json

inductive Token where
  | openArray
  | closeArray
  | openObject
  | closeObject
  | colon
  | comma
  | null
  | bool (value : Bool)
  | int (value : Int)
  | float (value : Float)
  | string (value : String)
  | invalid

namespace Token

def digitValue (c : Char) : Nat :=
  c.toNat - '0'.toNat

def natural (digits : List Char) : Nat :=
  digits.foldl (fun value c => value * 10 + digitValue c) 0

def digits? (characters : List Char) : Option (List Char × List Char) :=
  match characters.span Char.isDigit with
  | ([], _) => none
  | found => some found

def exponent? : List Char → Option Int
  | [] => some 0
  | e :: rest =>
    if e = 'e' || e = 'E' then
      let (negative, unsigned) :=
        match rest with
        | '+' :: digits => (false, digits)
        | '-' :: digits => (true, digits)
        | digits => (false, digits)
      match digits? unsigned with
      | some (digits, []) => some (if negative then -(natural digits) else natural digits)
      | _ => none
    else none

/-- A numeral without point and exponent is an integer if a 64-bit word, signed or not, can hold
it. `-0` is none, because no integer has that sign. -/
def integer? (negative : Bool) (digits : List Char) : Option Int :=
  let magnitude := natural digits
  if negative then
    if magnitude = 0 || Nat.pow 2 63 < magnitude then none else some (-magnitude)
  else if magnitude < Nat.pow 2 64 then some magnitude else none

/-- A whole numeral. Leading zeros are not allowed, and a number too large for a double is not
either. -/
def ofNumeral (characters : List Char) : Token :=
  let (negative, unsigned) :=
    match characters with
    | '-' :: rest => (true, rest)
    | rest => (false, rest)
  let number (whole fraction : List Char) (rest : List Char) : Token :=
    match exponent? rest with
    | none => invalid
    | some exponent =>
      let numeral : Decimal.Numeral :=
        { negative, exponent, whole := whole.map digitValue, fraction := fraction.map digitValue }
      match numeral.toFloat? with
      | some value => float value
      | none => invalid
  match digits? unsigned with
  | none => invalid
  | some (whole, rest) =>
    if whole.head? = some '0' && 1 < whole.length then invalid
    else
      match rest with
      | [] =>
        match integer? negative whole with
        | some value => int value
        | none => number whole [] []
      | '.' :: behind =>
        match digits? behind with
        | some (fraction, rest) => number whole fraction rest
        | none => invalid
      | rest => number whole [] rest

def ofWord (characters : List Char) : Token :=
  match String.ofList characters with
  | "null" => null
  | "true" => bool true
  | "false" => bool false
  | _ => invalid

def hexValue? (c : Char) : Option Nat :=
  if c.isDigit then some (c.toNat - '0'.toNat)
  else if 'a' ≤ c && c ≤ 'f' then some (c.toNat - 'a'.toNat + 10)
  else if 'A' ≤ c && c ≤ 'F' then some (c.toNat - 'A'.toNat + 10)
  else none

def codeUnit? (digits : List Char) : Option Nat :=
  digits.foldlM (fun unit c => (hexValue? c).map (unit * 16 + ·)) 0

def escaped? : Char → Option Char
  | '"' => some '"'
  | '\\' => some '\\'
  | '/' => some '/'
  | 'b' => some '\x08'
  | 'f' => some '\x0c'
  | 'n' => some '\n'
  | 'r' => some '\r'
  | 't' => some '\t'
  | _ => none

/-- Replaces the escapes of a string. Two escaped surrogates make one character, and one alone
makes none. -/
def unescape : List Char → Option (List Char)
  | [] => some []
  | '\\' :: 'u' :: a :: b :: c :: d :: '\\' :: 'u' :: e :: f :: g :: h :: rest => do
    let first ← codeUnit? [a, b, c, d]
    if 0xD800 ≤ first && first < 0xDC00 then
      let second ← codeUnit? [e, f, g, h]
      if 0xDC00 ≤ second && second < 0xE000 then
        let code := 0x10000 + (first - 0xD800) * 0x400 + (second - 0xDC00)
        return Char.ofNat code :: (← unescape rest)
      else none
    else if 0xDC00 ≤ first && first < 0xE000 then none
    else return Char.ofNat first :: (← unescape ('\\' :: 'u' :: e :: f :: g :: h :: rest))
  | '\\' :: 'u' :: a :: b :: c :: d :: rest => do
    let unit ← codeUnit? [a, b, c, d]
    if 0xD800 ≤ unit && unit < 0xE000 then none else return Char.ofNat unit :: (← unescape rest)
  | '\\' :: c :: rest => do return (← escaped? c) :: (← unescape rest)
  | c :: rest => do if c = '\\' then none else return c :: (← unescape rest)

def ofString (characters : List Char) : Token :=
  match unescape characters with
  | some value => string (String.ofList value)
  | none => invalid

def isSpace (c : Char) : Bool :=
  c = ' ' || c = '\t' || c = '\n' || c = '\r'

def isNumeral (c : Char) : Bool :=
  c.isDigit || c = '-' || c = '+' || c = '.' || c = 'e' || c = 'E'

/-- The token that is being read, its characters last first. -/
inductive Pending where
  | none
  | word (characters : List Char)
  | numeral (characters : List Char)
  | string (characters : List Char)
  /-- A string right behind a backslash. -/
  | escape (characters : List Char)

def Pending.finish : Pending → List Token
  | none => []
  | word characters => [ofWord characters.reverse]
  | numeral characters => [ofNumeral characters.reverse]
  | string _ | escape _ => [invalid]

/-- A character between tokens, which is a token by itself or begins one. -/
def begin (c : Char) : List Token × Option Pending :=
  if isSpace c then ([], some .none)
  else
    match c with
    | '[' => ([openArray], some .none)
    | ']' => ([closeArray], some .none)
    | '\x7b' => ([openObject], some .none)
    | '\x7d' => ([closeObject], some .none)
    | ':' => ([colon], some .none)
    | ',' => ([comma], some .none)
    | '"' => ([], some (.string []))
    | c =>
      if c.isDigit || c = '-' then ([], some (.numeral [c]))
      else if c.isAlpha then ([], some (.word [c]))
      else ([invalid], none)

/-- The tokens that one more character completes, and what is pending then. Nothing is pending
behind a character that no token can hold. -/
def step : Pending → Char → List Token × Option Pending
  | .none, c => begin c
  | .word characters, c =>
    if c.isAlpha then ([], some (.word (c :: characters)))
    else
      let (tokens, pending) := begin c
      (ofWord characters.reverse :: tokens, pending)
  | .numeral characters, c =>
    if isNumeral c then ([], some (.numeral (c :: characters)))
    else
      let (tokens, pending) := begin c
      (ofNumeral characters.reverse :: tokens, pending)
  | .string characters, c =>
    if c = '"' then ([ofString characters.reverse], some .none)
    else if c = '\\' then ([], some (.escape (c :: characters)))
    else if c.toNat < 0x20 then ([invalid], none)
    else ([], some (.string (c :: characters)))
  | .escape characters, c =>
    if c.toNat < 0x20 then ([invalid], none) else ([], some (.string (c :: characters)))

/-- The tokens of a text, those already read coming last first. -/
def tokensFrom (pending : Pending) (earlier : List Token) : List Char → List Token
  | [] => earlier.reverse ++ pending.finish
  | c :: rest =>
    match step pending c with
    | (tokens, some next) => tokensFrom next (tokens.reverse ++ earlier) rest
    | (tokens, none) => earlier.reverse ++ tokens

end Token

def tokens (text : String) : List Token :=
  Token.tokensFrom .none [] text.toList

end QueryTyping.Json
