/-!
# Positions

An offset into a text counts octets of its UTF-8 form. A reader of an error message is told the
line and the column instead, both counted from 1, where a column is a character.
-/

namespace TextTemplate

/-- A place in a text for a human reader. -/
structure Position where
  line : Nat
  column : Nat
deriving DecidableEq, Repr

namespace Position

/-- The place where a text starts. -/
def first : Position := ⟨1, 1⟩

/-- The place after a character. -/
def next (p : Position) (c : Char) : Position :=
  if c = '\n' then ⟨p.line + 1, 1⟩ else ⟨p.line, p.column + 1⟩

/-- Walks on from `p` until `offset` octets are covered or the text ends. -/
def advance (p : Position) (offset : Nat) : List Char → Position
  | [] => p
  | c :: cs => if offset = 0 then p else advance (p.next c) (offset - c.utf8Size) cs

end Position

/-- The line and column of an offset. An offset inside a character belongs to the next one, and an
offset past the end to the end. -/
def lineColumn (text : String) (offset : Nat) : Position :=
  Position.first.advance offset text.toList

end TextTemplate
