import QueryTyping.Json
import QueryTyping.Json.Token

/-! Reading JSON values from their tokens. The containers that are still open are kept on a stack,
the innermost first, so that one pass over the tokens suffices. -/

namespace QueryTyping.Json

/-- An open container, what it holds so far last first. -/
inductive Frame where
  | array (items : List Json)
  | object (members : Members)
  /-- An object whose last member still lacks its value. -/
  | member (members : Members) (key : String)

inductive Expected where
  | value
  | valueOrEnd
  | key
  | keyOrEnd
  | colon
  | separator

/-- A reader either goes on, has read a whole value, or has met what no value contains. -/
inductive Progress where
  | more (expected : Expected) (frames : List Frame)
  | done (value : Json)
  | refused

def maxNesting : Nat := 127

/-- A finished value goes into the innermost container. -/
def place (value : Json) : List Frame → Progress
  | [] => .done value
  | .array items :: outer => .more .separator (.array (value :: items) :: outer)
  | .member members key :: outer => .more .separator (.object ((key, value) :: members) :: outer)
  | .object _ :: _ => .refused

def enter (expected : Expected) (frame : Frame) (frames : List Frame) : Progress :=
  if frames.length < maxNesting then .more expected (frame :: frames) else .refused

def beginValue (frames : List Frame) : Token → Progress
  | .null => place .null frames
  | .bool value => place (.bool value) frames
  | .int value => place (.int value) frames
  | .float value => place (.float value) frames
  | .string value => place (.string value) frames
  | .openArray => enter .valueOrEnd (.array []) frames
  | .openObject => enter .keyOrEnd (.object []) frames
  | _ => .refused

def advance : Expected → List Frame → Token → Progress
  | .value, frames, token => beginValue frames token
  | .valueOrEnd, .array [] :: outer, .closeArray => place (.array []) outer
  | .valueOrEnd, frames, token => beginValue frames token
  | .key, .object members :: outer, .string key => .more .colon (.member members key :: outer)
  | .keyOrEnd, .object members :: outer, .string key => .more .colon (.member members key :: outer)
  | .keyOrEnd, .object members :: outer, .closeObject => place (.object members.reverse) outer
  | .colon, frames, .colon => .more .value frames
  | .separator, .array items :: outer, .comma => .more .value (.array items :: outer)
  | .separator, .array items :: outer, .closeArray => place (.array items.reverse) outer
  | .separator, .object members :: outer, .comma => .more .key (.object members :: outer)
  | .separator, .object members :: outer, .closeObject => place (.object members.reverse) outer
  | _, _, _ => .refused

/-- The first value of a list of tokens, and the tokens behind it. -/
def readFrom (expected : Expected) (frames : List Frame) :
    List Token → Option (Json × List Token)
  | [] => none
  | token :: rest =>
    match advance expected frames token with
    | .more expected frames => readFrom expected frames rest
    | .done value => some (value, rest)
    | .refused => none

/-- The value with which a text begins, and the tokens behind it. -/
def readFirst? (text : String) : Option (Json × List Token) :=
  readFrom .value [] (tokens text)

/-- The value of a text that holds nothing else. -/
def read? (text : String) : Option Json :=
  match readFirst? text with
  | some (value, []) => some value
  | _ => none

end QueryTyping.Json
