import QueryTyping.Function.Registry

/-! The built-in functions, declared like those of any other catalog. -/

namespace QueryTyping

namespace Declarations

def mathFunctions : FunctionGroup where
  name := "math"
  functions := [
    { name := "ABS"
      description := "Absolute value of a number."
      usages := [{ params := [.numeric], returns := .sameAsArgument 0 }] },
    { name := "CEIL"
      description := "Smallest integral value not less than the argument."
      usages := [{ params := [.numeric], returns := .fixed .float64 }] },
    { name := "FLOOR"
      description := "Largest integral value not greater than the argument."
      usages := [{ params := [.numeric], returns := .fixed .float64 }] },
    { name := "ROUND"
      description := "Nearest integral value. Integral arguments are returned unchanged."
      usages := [
        { params := [.exact .int32], returns := .sameAsArgument 0 },
        { params := [.exact .int64], returns := .sameAsArgument 0 },
        { params := [.exact .float64], returns := .fixed .int64 }] },
    { name := "RANDOM"
      description := "Pseudo-random number in [0, 1)."
      usages := [{ params := [], returns := .fixed .float64 }] },
    { name := "GEO_DISTANCE"
      description := "Great-circle distance between two latitude/longitude points, " ++
        "optionally in the given unit."
      usages := [
        { params := List.replicate 4 (.exact .float64), returns := .fixed .float64 },
        { params := List.replicate 4 (.exact .float64) ++ [.exact .string]
          returns := .fixed .float64 }] }]

def stringFunctions : FunctionGroup where
  name := "string"
  functions := [
    { name := "LCASE"
      usages := [{ params := [.exact .string], returns := .fixed .string }] },
    { name := "UCASE"
      usages := [{ params := [.exact .string], returns := .fixed .string }] },
    { name := "TRIM"
      usages := [{ params := [.exact .string], returns := .fixed .string }] },
    { name := "CONCAT"
      description := "Concatenation of one or more strings."
      usages := [{ params := [.exact .string], variadic := true, returns := .fixed .string }] },
    { name := "SUBSTRING"
      description := "Substring starting at a 1-based position, " ++
        "optionally bounded by an end position."
      usages := [
        { params := [.exact .string, .exact .int64], returns := .fixed .string },
        { params := [.exact .string, .exact .int64, .exact .int64], returns := .fixed .string }] },
    { name := "LEN"
      description := "Number of characters in a string."
      usages := [{ params := [.exact .string], returns := .fixed .int32 }] },
    { name := "EXTRACTJSONFIELD"
      description := "Value at a JSON path inside a JSON-encoded string."
      usages := [{ params := [.exact .string, .exact .string], returns := .fixed .string }] }]

def timeFunctions : FunctionGroup where
  name := "time"
  functions := [
    { name := "STRINGTOTIMESTAMP"
      description := "Milliseconds since the epoch parsed from a string with a format pattern."
      usages := [{ params := [.exact .string, .exact .string], returns := .fixed .int64 }] },
    { name := "TIMESTAMPTOSTRING"
      description := "Milliseconds since the epoch formatted with a format pattern."
      usages := [{ params := [.exact .int64, .exact .string], returns := .fixed .string }] }]

def collectionFunctions : FunctionGroup where
  name := "collections"
  functions := [
    { name := "ARRAYCONTAINS"
      description := "Whether an array contains a value."
      usages := [{ params := [.anyArray, .any], returns := .fixed .boolean }] },
    { name := "IFNULL"
      description := "The first argument, or the second when the first is null."
      usages := [{ params := [.any, .any], returns := .sameAsArgument 0 }] }]

def builtin : Declarations where
  groups := [mathFunctions, stringFunctions, timeFunctions, collectionFunctions]

end Declarations

def Registry.builtin : Registry :=
  match Registry.empty.extend Declarations.builtin with
  | .ok registry => registry
  | .error _ => .empty

/-- No built-in declaration is refused. -/
example : Registry.empty.extend .builtin = .ok .builtin := by
  rfl

end QueryTyping
