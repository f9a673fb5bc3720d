import QueryTyping.Decimal.Shortest

/-! Doubles as text. A format decides which exponents are written with a power of ten and how the
values without digits are spelled. -/

namespace QueryTyping.Decimal

/-- Exponents are those of the first digit. -/
structure Format where
  leastPositional : Int
  leastScientific : Int
  infinity : String
  noNumber : String

def Digits.positional (x : Digits) : String :=
  let digits := Nat.toDigits 10 x.digits
  let whole := digits.length + x.exponent
  let characters :=
    if 0 ≤ x.exponent then digits ++ List.replicate x.exponent.toNat '0' ++ ['.', '0']
    else if 0 < whole then digits.take whole.toNat ++ '.' :: digits.drop whole.toNat
    else '0' :: '.' :: List.replicate (-whole).toNat '0' ++ digits
  String.ofList characters

/-- One digit before the point, and no point if there is no other digit. -/
def Digits.scientific (x : Digits) : String :=
  let digits := Nat.toDigits 10 x.digits
  let mantissa := if digits.length = 1 then digits else digits.take 1 ++ '.' :: digits.drop 1
  String.ofList mantissa ++ "e" ++ toString (x.exponent + digits.length - 1)

def Format.magnitude (format : Format) (x : Digits) : String :=
  let first := x.exponent + (Nat.toDigits 10 x.digits).length - 1
  if format.leastPositional ≤ first && first < format.leastScientific then x.positional
  else x.scientific

/-- The text of the double with the given bits. Zero keeps its sign. -/
def Format.text (format : Format) (bits : Nat) : String :=
  let negative := Nat.pow 2 63 ≤ bits
  let sign := if negative then "-" else ""
  if bits % Nat.pow 2 63 = 0 then sign ++ "0.0"
  else if bits % Nat.pow 2 63 = 2047 * Nat.pow 2 52 then sign ++ format.infinity
  else
    match (Binary.ofBits? bits).bind Binary.shortest? with
    | some digits => sign ++ format.magnitude digits
    | none => format.noNumber

end QueryTyping.Decimal
