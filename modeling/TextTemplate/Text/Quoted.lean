import TextTemplate.Text.GlyphTable

/-!
# Quoted text

`quote` writes a text between quotation marks so that every character can be told from the marks
around it: a backslash stands before a quotation mark, a backslash and the short forms of a few
controls, and a character that shows nothing of its own, or that would join the one before it, is
written by its code point.
-/

namespace TextTemplate.Text

/-- The digits of a number in base 16, with small letters. -/
def hexDigits (n : Nat) : List Char := Nat.toDigits 16 n

/-- One character inside quotation marks. -/
def quoteChar (c : Char) : List Char :=
  if c = '\x00' then ['\\', '0']
  else if c = '\t' then ['\\', 't']
  else if c = '\r' then ['\\', 'r']
  else if c = '\n' then ['\\', 'n']
  else if c = '"' ∨ c = '\\' then ['\\', c]
  else if joiningMarks.contains c || unprintable.contains c then
    ['\\', 'u', '{'] ++ hexDigits c.toNat ++ ['}']
  else [c]

/-- A text between quotation marks. -/
def quote (s : String) : String :=
  String.ofList ('"' :: s.toList.flatMap quoteChar ++ ['"'])

end TextTemplate.Text
