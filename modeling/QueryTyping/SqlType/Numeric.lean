import QueryTyping.SqlType

/-! The numeric types form a chain, `INT32 < INT64 < FLOAT64`. Two of them meet in the wider one,
and a value is accepted where a wider number is expected. -/

namespace QueryTyping.SqlType

/-- The place in the chain, for numeric types only. -/
def rank? : SqlType → Option Nat
  | int32 => some 0
  | int64 => some 1
  | float64 => some 2
  | _ => none

def widen? (left right : SqlType) : Option SqlType := do
  let low ← left.rank?
  let high ← right.rank?
  return if high ≤ low then left else right

/-- Whether a value of type `source` is accepted where `target` is expected: the types are equal,
null flags included, or both are numeric and `source` is not the wider one. -/
def promotes (source target : SqlType) : Bool :=
  source == target ||
    match source.rank?, target.rank? with
    | some low, some high => low ≤ high
    | _, _ => false

/-- The widest of the numeric types in a list, the other types being left out. -/
def widest? (types : List SqlType) : Option SqlType :=
  match types.filter isNumeric with
  | [] => none
  | first :: rest => some (rest.foldl (fun found type => (found.widen? type).getD found) first)

theorem isNumeric_iff {type : SqlType} : type.isNumeric ↔ type.rank?.isSome := by
  cases type <;> simp [isNumeric, rank?]

theorem promotes_self (type : SqlType) : type.promotes type := by
  simp [promotes]

end QueryTyping.SqlType
