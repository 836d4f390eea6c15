/-!
# JSON values

Values as they are read from and written to JSON texts. Numbers keep what configurations need:
whether they are written as natural numbers, and which. A string that is written with surrogates
that form no pair has no text.
-/

namespace TextTemplate

mutual

/-- A JSON value. -/
inductive Json where
  | null
  | bool (value : Bool)
  /-- A number that is written with digits only. -/
  | natural (value : Nat)
  /-- A number that is written with a sign, a fraction or an exponent. -/
  | otherNumber
  | string (text : Option String)
  | array (items : List Json)
  | object (members : List JsonMember)

/-- A member of an object. -/
structure JsonMember where
  key : Option String
  value : Json

end

namespace Json

/-- A string with a text. -/
def ofString (s : String) : Json := string (some s)

/-- An object of members with texts as keys. -/
def ofMembers (members : List (String × Json)) : Json :=
  object (members.map fun (key, value) => ⟨some key, value⟩)

/-! ## Views -/

/-- The text of a string. -/
def text? : Json → Option String
  | string text => text
  | _ => none

/-- The truth value of a literal. -/
def bool? : Json → Option Bool
  | bool value => some value
  | _ => none

/-- The value of a natural number that fits into 64 bits. -/
def word? : Json → Option Nat
  | natural n => if n < UInt64.size then some n else none
  | _ => none

/-- The items of an array. -/
def items? : Json → Option (List Json)
  | array items => some items
  | _ => none

end Json

/-! ## Records

A record with named fields is written as an object, or as an array of its fields in order. -/

/-- The fields of a record: the values that are given, and whether they have names. -/
structure JsonFields where
  named : Bool
  values : List (Option Json)

namespace JsonFields

/-- The value of the field `name` among members; there is none if the field is given twice. -/
def ofMembers? (members : List JsonMember) (name : String) : Option (Option Json) :=
  match members.filter (·.key = some name) with
  | [] => some none
  | [m] => some (some m.value)
  | _ => none

/-- The fields of a record with the given names. An object may have other members, but an array no
more items than there are fields. -/
def read? (names : List String) : Json → Option JsonFields
  | .object members =>
    if members.all (·.key.isSome) then
      (names.mapM (ofMembers? members)).map fun values => ⟨true, values⟩
    else
      none
  | .array items =>
    if items.length ≤ names.length then
      some ⟨false, items.map some ++ List.replicate (names.length - items.length) none⟩
    else
      none
  | _ => none

/-- The value of the field at an index. -/
def value? (fields : JsonFields) (index : Nat) : Option Json := (fields.values[index]?).join

/-- Reads a field that must be given. -/
def required? {α : Type} (fields : JsonFields) (index : Nat) (read : Json → Option α) :
    Option α :=
  (fields.value? index).bind read

/-- Reads a field that has a default. -/
def optional? {α : Type} (fields : JsonFields) (index : Nat) (default : α)
    (read : Json → Option α) : Option α :=
  match fields.value? index with
  | none => some default
  | some value => read value

end JsonFields

end TextTemplate
