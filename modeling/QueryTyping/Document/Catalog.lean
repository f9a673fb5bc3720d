import QueryTyping.Document.SqlType
import QueryTyping.Function.Registry

/-! Function catalogs as documents. Every level but those of parameters and return rules refuses
members that it does not know. -/

namespace QueryTyping

def SqlType.scalarNamed : String → Option SqlType
  | "int32" => some .int32
  | "int64" => some .int64
  | "float64" => some .float64
  | "string" => some .string
  | "boolean" => some .boolean
  | _ => none

def SqlType.formIn (members : Json.Members) : Form SqlType :=
  Form.required "type" (members.find "type" SqlType.ofNestedJson)

def Param.form (kind : String) (members : Json.Members) : Form Param :=
  match kind with
  | "numeric" => pure .numeric
  | "any_array" => pure .anyArray
  | "any_map" => pure .anyMap
  | "any_struct" => pure .anyStruct
  | "any" => pure .any
  | "exact" => exact <$> SqlType.formIn members
  | kind => { value := exact <$> SqlType.scalarNamed kind }

def Param.ofJson : Json → Except Refusal Param :=
  Json.readTagged "kind" fun kind => Form.readRecord (Param.form kind)

def ReturnRule.form (kind : String) (members : Json.Members) : Form ReturnRule :=
  let index := Form.required "index" (members.find "index" (Json.readBelow (Nat.pow 2 64)))
  match kind with
  | "same_as_argument" => sameAsArgument <$> index
  | "element_of" => elementOf <$> index
  | "widest_numeric" => pure .widestNumeric
  | "fixed" => fixed <$> SqlType.formIn members
  | kind => { value := fixed <$> SqlType.scalarNamed kind }

def ReturnRule.ofJson : Json → Except Refusal ReturnRule :=
  Json.readTagged "kind" fun kind => Form.readRecord (ReturnRule.form kind)

def Usage.form (members : Json.Members) : Form Usage :=
  Usage.mk
    <$> Form.optional "params" [] (members.find "params" (Json.readList Param.ofJson))
    <*> Form.optional "variadic" false (members.find "variadic" Json.readBool)
    <*> Form.required "return" (members.find "return" ReturnRule.ofJson)

def Usage.ofJson : Json → Except Refusal Usage :=
  Form.readClosedRecord Usage.form

def FunctionDeclaration.form (members : Json.Members) : Form FunctionDeclaration :=
  let description := members.find "description" (Json.readNullable Json.readString)
  FunctionDeclaration.mk
    <$> Form.required "name" (members.find "name" Json.readString)
    <*> Form.optional "description" none description
    <*> Form.required "signatures" (members.find "signatures" (Json.readList Usage.ofJson))

def FunctionDeclaration.ofJson : Json → Except Refusal FunctionDeclaration :=
  Form.readClosedRecord FunctionDeclaration.form

def FunctionDeclaration.formIn (members : Json.Members) : Form (List FunctionDeclaration) :=
  Form.optional "functions" []
    (members.find "functions" (Json.readList FunctionDeclaration.ofJson))

def FunctionGroup.form (members : Json.Members) : Form FunctionGroup :=
  FunctionGroup.mk
    <$> Form.required "name" (members.find "name" Json.readString)
    <*> FunctionDeclaration.formIn members

def FunctionGroup.ofJson : Json → Except Refusal FunctionGroup :=
  Form.readClosedRecord FunctionGroup.form

namespace Declarations

def form (members : Json.Members) : Form Declarations :=
  Declarations.mk
    <$> Form.optional "groups" [] (members.find "groups" (Json.readList FunctionGroup.ofJson))
    <*> FunctionDeclaration.formIn members

def ofJson : Json → Except Refusal Declarations :=
  Form.readClosedRecord form

def ofText (text : String) : Except Refusal Declarations :=
  Json.readText ofJson text

end Declarations

namespace Registry

/-- Adds what a catalog document declares: all of it or, if anything is refused, nothing. -/
def extendWith {Document : Type} (read : Document → Except Refusal Declarations)
    (registry : Registry) (document : Document) : Except CatalogError Registry :=
  match read document with
  | .ok declarations => registry.extend declarations
  | .error _ => .error .malformed

def extendDocument (registry : Registry) (document : Json) : Except CatalogError Registry :=
  registry.extendWith Declarations.ofJson document

def extendText (registry : Registry) (text : String) : Except CatalogError Registry :=
  registry.extendWith Declarations.ofText text

end Registry

end QueryTyping
