/-! The fewest decimal digits that still mean the same double. A positive finite double is
`mantissa * 2 ^ exponent`, and every real number between its two midpoints reads back as it. The
digits are a multiple of the largest power of ten that has one in that range. -/

namespace QueryTyping.Decimal

/-- A positive finite double. Below a power of two the gap is half as wide as above it. -/
structure Binary where
  mantissa : Nat
  exponent : Int
  narrowBelow : Bool
  deriving DecidableEq, Repr

/-- Digits without leading zeros, to be scaled by a power of ten. -/
structure Digits where
  digits : Nat
  exponent : Int
  deriving DecidableEq, Repr

/-- The magnitude that the bits of a double stand for, unless it is zero, infinite or no number. -/
def Binary.ofBits? (bits : Nat) : Option Binary :=
  let exponent : Nat := bits / Nat.pow 2 52 % Nat.pow 2 11
  let fraction : Nat := bits % Nat.pow 2 52
  if exponent = 2047 then none
  else if exponent = 0 then
    if fraction = 0 then none else some ⟨fraction, -1074, false⟩
  else some ⟨Nat.pow 2 52 + fraction, exponent - 1075, fraction = 0 && 1 < exponent⟩

/-- A value with the midpoints to its neighbours, over one denominator. -/
structure Range where
  low : Nat
  value : Nat
  high : Nat
  unit : Nat
  /-- Whether the midpoints themselves read back as the value. -/
  closed : Bool

/-- In quarters of the last binary place both midpoints are whole numbers. A tie between two
doubles goes to the even mantissa. -/
def Binary.range (x : Binary) : Range :=
  let shift := x.exponent - 2
  let scale := Nat.pow 2 shift.toNat
  { low := (4 * x.mantissa - if x.narrowBelow then 1 else 2) * scale
    value := 4 * x.mantissa * scale
    high := (4 * x.mantissa + 2) * scale
    unit := Nat.pow 2 (-shift).toNat
    closed := x.mantissa % 2 = 0 }

def Range.inUnitsOf (range : Range) (exponent : Int) : Range :=
  let scale := Nat.pow 10 (-exponent).toNat
  { range with
    low := range.low * scale
    value := range.value * scale
    high := range.high * scale
    unit := range.unit * Nat.pow 10 exponent.toNat }

def Range.contains (range : Range) (count : Nat) : Bool :=
  let point := count * range.unit
  (range.low < point && point < range.high) ||
    (range.closed && (point = range.low || point = range.high))

/-- The multiple of the unit that is in the range and nearest to the value. If any multiple is in
the range, one of the two neighbours of the value is. A tie goes up. -/
def Range.nearest? (range : Range) : Option Nat :=
  let below := range.value / range.unit
  let rest := range.value % range.unit
  let above := below + 1
  match range.contains below, range.contains above with
  | true, true => some (if 2 * rest < range.unit then below else above)
  | true, false => some below
  | false, true => some above
  | false, false => none

/-- The powers of ten that can be the last digit's place, the largest first. No double is above
`10 ^ 309`, and the smallest gap between two of them is above `10 ^ -324`. -/
def places : List Int :=
  (List.range 634).map fun (step : Nat) => 309 - (step : Int)

def Binary.shortest? (x : Binary) : Option Digits :=
  places.findSome? fun place =>
    (x.range.inUnitsOf place).nearest?.map fun digits => ⟨digits, place⟩

end QueryTyping.Decimal
