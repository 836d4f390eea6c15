import TextTemplate.Json
import TextTemplate.Text.Quoted

/-!
# Writing JSON

`Json.render` writes a value without blanks and in the order in which it holds its members. Inside
of strings, quotation marks, backslashes and controls are escaped, and nothing else.
-/

namespace TextTemplate.Json

/-- One character of a string. -/
def escapeChar (c : Char) : List Char :=
  if c = '"' ∨ c = '\\' then ['\\', c]
  else if c = '\x08' then ['\\', 'b']
  else if c = '\x0c' then ['\\', 'f']
  else if c = '\n' then ['\\', 'n']
  else if c = '\r' then ['\\', 'r']
  else if c = '\t' then ['\\', 't']
  else if c < ' ' then
    ['\\', 'u', '0', '0', Nat.digitChar (c.toNat / 16), Nat.digitChar (c.toNat % 16)]
  else [c]

/-- A string with its quotation marks. -/
def renderString (s : String) : String :=
  String.ofList ('"' :: s.toList.flatMap escapeChar ++ ['"'])

/-- A truth value. -/
def renderBool (b : Bool) : String := if b then "true" else "false"

mutual

/-- The text of a value. A number that is no natural one and a string without text have none of
their own and are written as null. -/
def render : Json → String
  | null => "null"
  | bool value => renderBool value
  | natural value => toString value
  | otherNumber => "null"
  | string text => (text.map renderString).getD "null"
  | array items => "[" ++ ",".intercalate (renderItems items) ++ "]"
  | object members => "\x7b" ++ ",".intercalate (renderMembers members) ++ "\x7d"

/-- The texts of values. -/
def renderItems : List Json → List String
  | [] => []
  | item :: items => render item :: renderItems items

/-- The texts of members. -/
def renderMembers : List JsonMember → List String
  | [] => []
  | ⟨key, value⟩ :: members =>
    (renderString (key.getD "") ++ ":" ++ render value) :: renderMembers members

end

end TextTemplate.Json
