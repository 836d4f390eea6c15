/-!
# Lines

`splitOn` cuts a text at each separator. `lines` cuts it after each line feed, which belongs to no
line, and neither does one carriage return in front of it. A text that ends in a line feed has no
empty line after it.
-/

namespace TextTemplate.Text

/-- The pieces between separators; there is always one more of them than separators. -/
def splitOn (separator : Char) : List Char → List (List Char)
  | [] => [[]]
  | c :: cs =>
    if c = separator then [] :: splitOn separator cs
    else
      match splitOn separator cs with
      | [] => [[c]]
      | piece :: pieces => (c :: piece) :: pieces

theorem splitOn_ne_nil (separator : Char) (cs : List Char) : splitOn separator cs ≠ [] := by
  cases cs with
  | nil => simp [splitOn]
  | cons c cs =>
    unfold splitOn
    split
    · simp
    · split <;> simp

/-- Drops one carriage return at the end. -/
def dropReturn (cs : List Char) : List Char :=
  if cs.getLast? = some '\r' then cs.dropLast else cs

/-- Makes lines of the pieces between line feeds. -/
def linesOfPieces : List (List Char) → List (List Char)
  | [] => []
  | [rest] => if rest.isEmpty then [] else [rest]
  | piece :: pieces => dropReturn piece :: linesOfPieces pieces

/-- The lines of a text. -/
def lines (s : String) : List String :=
  (linesOfPieces (splitOn '\n' s.toList)).map String.ofList

end TextTemplate.Text
