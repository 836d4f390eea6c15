import TextTemplate.Text.CaseTable

/-!
# Letter case

`upper` and `lower` map a text character by character; a character may become several ones. One
rule looks at its surroundings: a capital sigma at the end of a word becomes the final small
sigma. `capitalize` maps the first character only.
-/

namespace TextTemplate.Text

/-- What a character is mapped to by tables of shifts and expansions. -/
def mapCase (shifts : List CaseShift) (expansions : List (Nat × List Nat)) (c : Char) :
    List Char :=
  match expansions.lookup c.toNat with
  | some codes => codes.map Char.ofNat
  | none =>
    match shifts.findSome? (·.target c.toNat) with
    | some code => [Char.ofNat code]
    | none => [c]

/-- The upper case of a character. -/
def upperChar (c : Char) : List Char := mapCase upperShifts upperExpansions c

/-- The lower case of a character that stands alone. -/
def lowerChar (c : Char) : List Char := mapCase lowerShifts lowerExpansions c

/-- Whether the first character that is not skipped over has letter case. -/
def reachesCased (cs : List Char) : Bool :=
  match cs.dropWhile caseIgnorable.contains with
  | [] => false
  | c :: _ => cased.contains c

/-- Whether a sigma between `before`, read backwards, and `after` ends a word. -/
def endsWord (before after : List Char) : Bool :=
  reachesCased before && !reachesCased after

/-- The lower case of the characters that follow `before`, which is held backwards. -/
def lowerFrom : List Char → List Char → List Char
  | _, [] => []
  | before, c :: after =>
    let mapped := if c = 'Σ' then [if endsWord before after then 'ς' else 'σ'] else lowerChar c
    mapped ++ lowerFrom (c :: before) after

/-- A text in upper case. -/
def upper (s : String) : String := String.ofList (s.toList.flatMap upperChar)

/-- A text in lower case. -/
def lower (s : String) : String := String.ofList (lowerFrom [] s.toList)

/-- A text whose first character is in upper case. -/
def capitalize (s : String) : String :=
  match s.toList with
  | [] => ""
  | c :: cs => String.ofList (upperChar c ++ cs)

/-- Whether two texts are equal but for the case of ASCII letters. -/
def equalIgnoringAsciiCase (s t : String) : Bool :=
  s.toList.map Char.toLower == t.toList.map Char.toLower

end TextTemplate.Text
