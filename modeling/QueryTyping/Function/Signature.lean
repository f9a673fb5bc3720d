import QueryTyping.CasePolicy
import QueryTyping.SqlType.Numeric
import QueryTyping.Text.Blank
import QueryTyping.TypeError

/-! Overloads of scalar functions: what they accept at each position and how their result follows
from the arguments. A signature that refers to an argument it does not declare cannot be made. -/

namespace QueryTyping

/-- What one position accepts. An exact type also accepts whatever promotes to it. -/
inductive Param where
  | exact (type : SqlType)
  | numeric
  | anyArray
  | anyMap
  | anyStruct
  | any
  deriving DecidableEq

namespace Param

def accepts : Param → SqlType → Bool
  | exact type, argument => argument.promotes type
  | numeric, argument => argument.isNumeric
  | anyArray, .array _ => true
  | anyMap, .map _ _ => true
  | anyStruct, .struct _ => true
  | any, _ => true
  | _, _ => false

def text : Param → String
  | exact type => type.text
  | numeric => "NUMERIC"
  | anyArray => "ARRAY<ANY>"
  | anyMap => "MAP<ANY, ANY>"
  | anyStruct => "STRUCT<ANY>"
  | any => "ANY"

end Param

/-- How a result type follows from the argument types. Positions are counted from zero. -/
inductive ReturnRule where
  | fixed (type : SqlType)
  | sameAsArgument (index : Nat)
  | widestNumeric
  | elementOf (index : Nat)
  | custom (rule : List SqlType → Except TypeError SqlType)

def ReturnRule.argument? : ReturnRule → Option Nat
  | sameAsArgument index | elementOf index => some index
  | _ => none

inductive SignatureFault where
  | emptyName
  | variadicWithoutParams
  | undeclaredArgument (index count : Nat)
  deriving DecidableEq, Repr

def SignatureFault.message : SignatureFault → String
  | emptyName => "function name is empty"
  | variadicWithoutParams => "variadic signature declares no parameters"
  | undeclaredArgument index count =>
    s!"return rule references argument {index} but only {count} parameters defined"

namespace Signature

/-- Function names are kept without the blanks around them and in upper case. -/
def key (name : String) : String :=
  Text.upper (Text.trim name)

private theorem isBlank_toUpper (c : Char) : Text.isBlank c.toUpper = Text.isBlank c := by
  simp only [Text.isBlank, Text.toNat_toUpper]
  split
  · next letter =>
    -- Neither a letter nor its upper case is white space.
    rw [Bool.eq_iff_iff]
    simp
    omega
  · rfl

theorem trim_upper (text : String) :
    Text.trim (Text.upper text) = Text.upper (Text.trim text) := by
  have kept : Text.isBlank ∘ Char.toUpper = Text.isBlank := funext isBlank_toUpper
  simp [Text.trim, Text.upper, Text.trimmed, List.dropWhile_map, ← List.map_reverse, kept]

private theorem trim_trim (text : String) : Text.trim (Text.trim text) = Text.trim text := by
  simp [Text.trim, Text.trimmed_trimmed]

@[simp] theorem key_key (name : String) : key (key name) = key name := by
  rw [key, key, trim_upper, Text.upper_upper, trim_trim]

theorem upper_of_key {name : String} (kept : key name = name) : Text.upper name = name := by
  rw [← kept, key, Text.upper_upper]

theorem trim_of_key {name : String} (kept : key name = name) : Text.trim name = name := by
  rw [← kept, key, trim_upper, trim_trim]

end Signature

/-- One overload of a scalar function. The last parameter of a variadic one may be repeated. -/
structure Signature where
  name : String
  params : List Param
  variadic : Bool
  returns : ReturnRule
  description : Option String
  keyed : Signature.key name = name
  named : name ≠ ""
  repeatable : variadic → params ≠ []
  declared : ∀ index, returns.argument? = some index → index < params.length

inductive CatalogError where
  | malformed
  | duplicateSignature (name signature : String)
  | invalidSignature (name : String) (fault : SignatureFault)
  deriving DecidableEq, Repr

def CatalogError.message : CatalogError → String
  | malformed => "failed to parse function catalog"
  | duplicateSignature name signature =>
    s!"duplicate signature {signature} for function `{name}`"
  | invalidSignature name fault => s!"function `{name}` has invalid signature: {fault.message}"

namespace Signature

def build (name : String) (params : List Param) (variadic : Bool) (returns : ReturnRule)
    (description : Option String) : Except CatalogError Signature :=
  if unnamed : key name = "" then .error (.invalidSignature (key name) .emptyName)
  else if bare : variadic ∧ params = [] then
    .error (.invalidSignature (key name) .variadicWithoutParams)
  else
    match outside : returns.argument?.filter (params.length ≤ ·) with
    | some index => .error (.invalidSignature (key name) (.undeclaredArgument index params.length))
    | none => .ok {
        name := key name
        params, variadic, returns, description
        keyed := key_key name
        named := unnamed
        repeatable := fun many none => bare ⟨many, none⟩
        declared := by
          intro index found
          simpa [found, Option.filter] using outside }

/-- Whether two overloads could not be told apart by any arguments. -/
def sameParameters (left right : Signature) : Bool :=
  left.variadic == right.variadic && left.params == right.params

def text (signature : Signature) : String :=
  signature.name ++ "(" ++ ", ".intercalate (signature.params.map Param.text) ++
    (if signature.variadic then "..." else "") ++ ")"

/-- Position by position, over lists of one length. -/
def acceptsEach (params : List Param) (arguments : List SqlType) : Bool :=
  params.length == arguments.length &&
    (params.zip arguments).all fun (param, type) => param.accepts type

/-- The repeated parameter of a variadic signature takes at least one argument, and all those that
the parameters before it leave over. -/
def accepts (signature : Signature) (arguments : List SqlType) : Bool :=
  if signature.variadic then
    let leading := signature.params.dropLast
    signature.params.getLast?.any fun repeated =>
      leading.length < arguments.length &&
        acceptsEach leading (arguments.take leading.length) &&
        (arguments.drop leading.length).all repeated.accepts
  else acceptsEach signature.params arguments

def argument (signature : Signature) (arguments : List SqlType) (index : Nat) :
    Except Cause SqlType :=
  match arguments[index]? with
  | some type => .ok type
  | none => .error (.missingArgument signature.name index)

def returnType (signature : Signature) (arguments : List SqlType) : Except TypeError SqlType :=
  match signature.returns with
  | .fixed type => .ok type
  | .sameAsArgument index => unplaced (signature.argument arguments index)
  | .widestNumeric =>
    unplaced <|
      match SqlType.widest? arguments with
      | some type => .ok type
      | none => .error (.noNumericArgument signature.name)
  | .elementOf index =>
    unplaced do
      let container ← signature.argument arguments index
      match container.element? with
      | some type => .ok type
      | none => .error (.notIndexable signature.name index container)
  | .custom rule => rule arguments

end Signature

end QueryTyping
