import QueryTyping.Function.Signature

/-! Functions as a catalog declares them, in groups and before anything is checked. -/

namespace QueryTyping

structure Usage where
  params : List Param
  variadic : Bool := false
  returns : ReturnRule

structure FunctionDeclaration where
  name : String
  description : Option String := none
  usages : List Usage

/-- The name of a group has no meaning beyond the catalog itself. -/
structure FunctionGroup where
  name : String
  functions : List FunctionDeclaration

structure Declarations where
  groups : List FunctionGroup := []
  functions : List FunctionDeclaration := []

/-- A declared overload, on its way to become a signature. -/
structure Overload where
  name : String
  description : Option String
  usage : Usage

def Overload.signature (overload : Overload) : Except CatalogError Signature :=
  Signature.build overload.name overload.usage.params overload.usage.variadic
    overload.usage.returns overload.description

def FunctionDeclaration.overloads (function : FunctionDeclaration) : List Overload :=
  function.usages.map fun usage => ⟨function.name, function.description, usage⟩

/-- All overloads in the order in which they are registered: the groups first, then the functions
that stand outside of any group. -/
def Declarations.overloads (declarations : Declarations) : List Overload :=
  (declarations.groups.flatMap FunctionGroup.functions ++ declarations.functions).flatMap
    FunctionDeclaration.overloads

end QueryTyping
