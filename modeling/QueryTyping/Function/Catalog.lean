import QueryTyping.Function.Signature

/-! The scalar functions that an expression may call, as inference sees them. -/

namespace QueryTyping

/-- A read-only view of some functions. Names are upper-cased before they are looked up, so a
catalog never has to compare letter cases itself. -/
structure Catalog where
  contains : String → Bool
  /-- The first overload of a function that accepts the arguments. -/
  lookup : String → List SqlType → Option Signature

def Catalog.resolve (catalog : Catalog) (function : String) (arguments : List SqlType) :
    Except TypeError SqlType :=
  let name := Text.upper function
  if catalog.contains name then
    match catalog.lookup name arguments with
    | some signature => signature.returnType arguments
    | none => .error { cause := .noMatchingSignature name arguments }
  else .error { cause := .unknownFunction name }

end QueryTyping
