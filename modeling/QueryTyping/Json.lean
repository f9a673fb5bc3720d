/-! JSON values. An object keeps its members in order and with repetitions, because a document in
which a member is given twice is refused. Integers and other numbers are told apart as they are
written. -/

namespace QueryTyping

inductive Json where
  | null
  | bool (value : Bool)
  | int (value : Int)
  | float (value : Float)
  | string (value : String)
  | array (items : List Json)
  | object (members : List (String × Json))

namespace Json

abbrev Members := List (String × Json)

end Json

end QueryTyping
