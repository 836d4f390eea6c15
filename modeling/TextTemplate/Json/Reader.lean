import TextTemplate.Json
import TextTemplate.Json.Token

/-!
# Reading JSON

`Json.parse?` reads the one value of a JSON text. `JsonReader.step?` reads a token: a reader holds
the arrays and objects that are open, innermost first, and what it expects next.
-/

namespace TextTemplate

/-- An array or object that is being read; what it holds so far is latest first. -/
inductive JsonFrame where
  | array (items : List Json)
  | object (members : List JsonMember)
  /-- An object in front of the value for a key. -/
  | member (members : List JsonMember) (key : Option String)

/-- What a reader expects next. -/
inductive JsonExpected where
  | value
  /-- The first item of an array, or its end. -/
  | itemOrEnd
  /-- The first key of an object, or its end. -/
  | keyOrEnd
  | key
  | colon
  /-- Another item or member, or the end of the array or object. -/
  | commaOrEnd
deriving DecidableEq, Repr

/-- The state of reading a value. -/
inductive JsonReader where
  | reading (frames : List JsonFrame) (expected : JsonExpected)
  | finished (value : Json)

namespace JsonReader

/-- Hands a value to the array or object that it stands in. -/
def supply? (value : Json) : List JsonFrame → Option JsonReader
  | [] => some (finished value)
  | .array items :: frames => some (reading (.array (value :: items) :: frames) .commaOrEnd)
  | .member members key :: frames =>
    some (reading (.object (⟨key, value⟩ :: members) :: frames) .commaOrEnd)
  | .object _ :: _ => none

/-- Begins a value. -/
def startValue? (frames : List JsonFrame) : JsonToken → Option JsonReader
  | .openBracket => some (reading (.array [] :: frames) .itemOrEnd)
  | .openBrace => some (reading (.object [] :: frames) .keyOrEnd)
  | .null => supply? .null frames
  | .bool value => supply? (.bool value) frames
  | .natural value => supply? (.natural value) frames
  | .otherNumber => supply? .otherNumber frames
  | .string text => supply? (.string text) frames
  | _ => none

/-- Reads a key. -/
def startMember? (frames : List JsonFrame) (token : JsonToken) : Option JsonReader :=
  match frames, token with
  | .object members :: frames, .string key =>
    some (reading (.member members key :: frames) .colon)
  | _, _ => none

/-- Ends the innermost array or object. -/
def close? (frames : List JsonFrame) (token : JsonToken) : Option JsonReader :=
  match frames, token with
  | .array items :: frames, .closeBracket => supply? (.array items.reverse) frames
  | .object members :: frames, .closeBrace => supply? (.object members.reverse) frames
  | _, _ => none

/-- Reads a token. -/
def step? (reader : JsonReader) (token : JsonToken) : Option JsonReader :=
  match reader with
  | finished _ => none
  | reading frames expected =>
    match expected with
    | .value => startValue? frames token
    | .itemOrEnd =>
      if token = .closeBracket then close? frames token else startValue? frames token
    | .keyOrEnd =>
      if token = .closeBrace then close? frames token else startMember? frames token
    | .key => startMember? frames token
    | .colon => if token = .colon then some (reading frames .value) else none
    | .commaOrEnd =>
      if token = .comma then
        match frames with
        | .array _ :: _ => some (reading frames .value)
        | _ => some (reading frames .key)
      else close? frames token

/-- Reads tokens one after the other. -/
def run? : JsonReader → List JsonToken → Option JsonReader
  | reader, [] => some reader
  | reader, token :: tokens =>
    match reader.step? token with
    | none => none
    | some next => run? next tokens

/-- The value that has been read. -/
def value? : JsonReader → Option Json
  | finished value => some value
  | reading _ _ => none

end JsonReader

/-- The value of a JSON text. -/
def Json.parse? (text : String) : Option Json :=
  (JsonToken.scan? text).bind fun tokens =>
    (JsonReader.run? (.reading [] .value) tokens).bind JsonReader.value?

end TextTemplate
