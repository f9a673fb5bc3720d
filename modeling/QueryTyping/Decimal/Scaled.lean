/-! Decimal numerals as doubles. A numeral is read as a 64-bit significand, scaled once by a power
of ten, which is exact for short numerals and may be off in the last place for long ones. -/

namespace QueryTyping.Decimal

structure Numeral where
  negative : Bool
  whole : List Nat
  fraction : List Nat
  exponent : Int

/-- Appends digits to a significand until the next one no longer fits into 64 bits, and counts how
many are left over. -/
def absorb (significand : Nat) : List Nat → Nat × Nat
  | [] => (significand, 0)
  | digit :: rest =>
    let longer := significand * 10 + digit
    if longer < Nat.pow 2 64 then absorb longer rest else (significand, rest.length + 1)

/-- Digits left over before the point still raise the exponent; those behind it are dropped. -/
def Numeral.significand (x : Numeral) : Nat × Int :=
  let (whole, skipped) := absorb 0 x.whole
  let (significand, dropped) := absorb whole x.fraction
  (significand, x.exponent + skipped - (x.fraction.length - dropped : Nat))

def powerOfTen (exponent : Nat) : Float :=
  Float.ofScientific 1 false exponent

/-- `10 ^ 308` is the largest power of ten that is a double, so smaller results take two steps. -/
def scale (value : Float) (exponent : Int) : Float :=
  if 0 ≤ exponent then
    if exponent ≤ 308 then value * powerOfTen exponent.toNat
    else if value == 0 then value else 1 / 0
  else if -308 ≤ exponent then value / powerOfTen (-exponent).toNat
  else if -616 ≤ exponent then value / powerOfTen 308 / powerOfTen (-exponent - 308).toNat
  else 0

/-- A numeral too large for a double has no value. -/
def Numeral.toFloat? (x : Numeral) : Option Float :=
  let (significand, exponent) := x.significand
  let magnitude := scale (Float.ofNat significand) exponent
  if magnitude.isInf then none
  else some (if x.negative then -magnitude else magnitude)

end QueryTyping.Decimal
