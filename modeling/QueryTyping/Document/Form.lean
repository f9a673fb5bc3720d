import QueryTyping.Json.Reader
import QueryTyping.Schema

/-! Reading documents. A form says which members a record may have and what they are read as. A
record is an object or, in the order of the form, an array of the values of its members. When several
members are at fault, the one that comes first in the document decides why the document is refused;
a missing member is noticed last. -/

namespace QueryTyping

/-- Why a document is refused. Only a row that is described properly and then found invalid has
more to say than that the document has the wrong shape. -/
inductive Refusal where
  | shape
  | schema (error : SchemaError)
  deriving DecidableEq, Repr

namespace Json

/-- The value of a member, if it is given exactly once. -/
def Members.only? (members : Members) (key : String) : Option Json :=
  match members.filter (·.1 = key) with
  | [(_, value)] => some value
  | _ => none

/-- What a member is read as, if it is given. -/
def Members.find (members : Members) (key : String) (read : Json → Except Refusal α) :
    Option (Except Refusal α) :=
  (members.lookup key).map read

end Json

/-- The members that some part of a document is made of, those of them that were refused, and the
part itself if none was refused or missing. -/
structure Form (α : Type) where
  keys : List String := []
  refusals : List (String × Refusal) := []
  value : Option α

namespace Form

instance : Applicative Form where
  pure value := { value := some value }
  seq function argument :=
    { keys := function.keys ++ (argument ()).keys
      refusals := function.refusals ++ (argument ()).refusals
      value := do return (← function.value) (← (argument ()).value) }

def required (key : String) : Option (Except Refusal α) → Form α
  | none => { keys := [key], value := none }
  | some (.ok value) => { keys := [key], value := some value }
  | some (.error refusal) => { keys := [key], refusals := [(key, refusal)], value := none }

def optional (key : String) (default : α) : Option (Except Refusal α) → Form α
  | none => { keys := [key], value := some default }
  | found => required key found

/-- The first member that is refused or repeated. Members that the form does not know are passed
over. -/
def firstRefusal (form : Form α) (seen : List String) : Json.Members → Option Refusal
  | [] => none
  | (key, _) :: rest =>
    if key ∈ form.keys then
      if key ∈ seen then some .shape
      else (form.refusals.lookup key).or (form.firstRefusal (key :: seen) rest)
    else form.firstRefusal seen rest

/-- Reads an object that may have other members besides. -/
def read (members : Json.Members) (form : Form α) : Except Refusal α :=
  match form.firstRefusal [] members, form.value with
  | some refusal, _ => .error refusal
  | none, some value => .ok value
  | none, none => .error .shape

/-- Reads an object that may have no other members than the form's and those in `others`. -/
def readClosed (others : List String) (members : Json.Members) (form : Form α) :
    Except Refusal α :=
  if members.all fun (key, _) => key ∈ form.keys || key ∈ others then form.read members
  else .error .shape

end Form

namespace Json

def readString : Json → Except Refusal String
  | string value => .ok value
  | _ => .error .shape

def readBool : Json → Except Refusal Bool
  | bool value => .ok value
  | _ => .error .shape

/-- An integer from zero up to, but not including, a bound. -/
def readBelow (bound : Nat) : Json → Except Refusal Nat
  | int value => if 0 ≤ value && value < bound then .ok value.toNat else .error .shape
  | _ => .error .shape

/-- A double may also be written as an integer. -/
def readFloat : Json → Except Refusal Float
  | float value => .ok value
  | int value => .ok (Float.ofInt value)
  | _ => .error .shape

/-- One of several names. It may also stand as the only member of an object, over `null`. -/
def readName (named : String → Option α) : Json → Except Refusal α
  | string name | object [(name, null)] =>
    match named name with
    | some value => .ok value
    | none => .error .shape
  | _ => .error .shape

/-- A name in the document of an expression may also stand over an empty object. -/
def readNestedName (named : String → Option α) : Json → Except Refusal α
  | object [(name, object [])] => readName named (string name)
  | document => readName named document

def readNullable (read : Json → Except Refusal α) : Json → Except Refusal (Option α)
  | null => .ok none
  | value => some <$> read value

def readList (read : Json → Except Refusal α) : Json → Except Refusal (List α)
  | array items => items.mapM read
  | _ => .error .shape

/-- Reads a record. In an array the values stand alone, in the order of their keys, and those that
may be left out may be missing at the end. An item too many is noticed last. -/
def readRecord (keys : List String) (read : Members → Except Refusal α) : Json → Except Refusal α
  | object members => read members
  | array items => do
    let value ← read (keys.zip items)
    if items.length ≤ keys.length then .ok value else .error .shape
  | _ => .error .shape

/-- The tag of a document that may be one of several records. It is a member of an object or the
first item of an array. -/
def tag? (key : String) : Json → Option Json
  | object members => Members.only? members key
  | array (tag :: _) => some tag
  | _ => none

/-- The record that stands behind a tag. In an object the tag is one of the members. -/
def untagged : Json → Json
  | array (_ :: items) => array items
  | document => document

/-- Reads a document by its tag. -/
def readTagged (key : String) (read : String → Json → Except Refusal α) (document : Json) :
    Except Refusal α :=
  match document.tag? key with
  | some (string tag) => read tag document.untagged
  | _ => .error .shape

/-- One of several tags. A tag that has been put aside with the rest of its document may be given by
its number as well. -/
def nestedTag? (tags : List String) : Json → Option String
  | string tag => some tag
  | int number => if 0 ≤ number then tags[number.toNat]? else none
  | _ => none

/-- Reads a document from its text. What follows the document is looked at last. -/
def readText (read : Json → Except Refusal α) (text : String) : Except Refusal α :=
  match readFirst? text with
  | none => .error .shape
  | some (document, rest) => do
    let value ← read document
    if rest.isEmpty then .ok value else .error .shape

end Json

namespace Form

/-- Reads a record that may have other members besides. -/
def readRecord (form : Json.Members → Form α) : Json → Except Refusal α :=
  Json.readRecord (form []).keys fun members => (form members).read members

/-- Reads a record that may have no other members than the form's. -/
def readClosedRecord (form : Json.Members → Form α) : Json → Except Refusal α :=
  Json.readRecord (form []).keys fun members => (form members).readClosed [] members

end Form

end QueryTyping
