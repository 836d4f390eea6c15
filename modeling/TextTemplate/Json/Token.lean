import TextTemplate.Text.Integer

/-!
# JSON tokens

`JsonToken.scan?` splits a JSON text into tokens. It goes through the text character by character;
what it is in the midst of is a `JsonToken.Mode`. A number ends where a character cannot be part
of it, and that character is read on its own.
-/

namespace TextTemplate

/-- A lexical unit of a JSON text. -/
inductive JsonToken where
  | openBrace
  | closeBrace
  | openBracket
  | closeBracket
  | colon
  | comma
  | null
  | bool (value : Bool)
  | natural (value : Nat)
  | otherNumber
  | string (text : Option String)
deriving DecidableEq, Repr

namespace JsonToken

/-- How much of a number has been read. -/
inductive NumberPart where
  | minus
  | zero (negative : Bool)
  | digits (negative : Bool) (value : Nat)
  | point
  | fraction
  | exponent
  | exponentSign
  | exponentDigits
deriving DecidableEq, Repr

namespace NumberPart

/-- The token of a number that ends here, if it may. -/
def token? : NumberPart → Option JsonToken
  | zero negative => some (if negative then .otherNumber else .natural 0)
  | digits negative value => some (if negative then .otherNumber else .natural value)
  | fraction | exponentDigits => some .otherNumber
  | minus | point | exponent | exponentSign => none

/-- Goes on with a digit, if one may follow. -/
def digit? (d : Nat) : NumberPart → Option NumberPart
  | minus => some (if d = 0 then zero true else digits true d)
  | zero _ => none
  | digits negative value => some (digits negative (value * 10 + d))
  | point | fraction => some fraction
  | exponent | exponentSign | exponentDigits => some exponentDigits

/-- Goes on with a character, if it may follow. -/
def next? (part : NumberPart) (c : Char) : Option NumberPart :=
  match Text.digitValue? 10 c with
  | some d => part.digit? d
  | none =>
    match part, c with
    | zero _, '.' | digits _ _, '.' => some point
    | zero _, 'e' | zero _, 'E' | digits _ _, 'e' | digits _ _, 'E' => some exponent
    | fraction, 'e' | fraction, 'E' => some exponent
    | exponent, '+' | exponent, '-' => some exponentSign
    | _, _ => none

end NumberPart

/-- What a scanner is in the midst of. Code units of a string are held latest first. -/
inductive Mode where
  | between
  /-- A word, with the characters that it lacks and its token. -/
  | word (rest : List Char) (token : JsonToken)
  | number (part : NumberPart)
  | string (units : List Nat)
  | escape (units : List Nat)
  /-- An escape by number, with the count of digits that it lacks and its value so far. -/
  | unicode (units : List Nat) (missing value : Nat)
deriving DecidableEq, Repr

/-- The text of code units. Two surrogates in order make up one character, and any other surrogate
spoils the text. -/
def textOfUnits : List Nat → Option (List Char)
  | [] => some []
  | high :: low :: units =>
    if 0xD800 ≤ high ∧ high ≤ 0xDBFF ∧ 0xDC00 ≤ low ∧ low ≤ 0xDFFF then
      let code := 0x10000 + (high - 0xD800) * 0x400 + (low - 0xDC00)
      (textOfUnits units).map (Char.ofNat code :: ·)
    else if 0xD800 ≤ high ∧ high ≤ 0xDFFF then none
    else (textOfUnits (low :: units)).map (Char.ofNat high :: ·)
  | [unit] => if 0xD800 ≤ unit ∧ unit ≤ 0xDFFF then none else some [Char.ofNat unit]

/-- The character that a short escape stands for. -/
def shortEscape? : Char → Option Char
  | '"' => some '"'
  | '\\' => some '\\'
  | '/' => some '/'
  | 'b' => some '\x08'
  | 'f' => some '\x0c'
  | 'n' => some '\n'
  | 'r' => some '\r'
  | 't' => some '\t'
  | _ => none

/-- Reads a character between tokens. -/
def stepBetween (c : Char) : Option (List JsonToken × Mode) :=
  match c with
  | ' ' | '\t' | '\n' | '\r' => some ([], .between)
  | '{' => some ([openBrace], .between)
  | '}' => some ([closeBrace], .between)
  | '[' => some ([openBracket], .between)
  | ']' => some ([closeBracket], .between)
  | ':' => some ([colon], .between)
  | ',' => some ([comma], .between)
  | '"' => some ([], .string [])
  | 't' => some ([], .word ['r', 'u', 'e'] (bool true))
  | 'f' => some ([], .word ['a', 'l', 's', 'e'] (bool false))
  | 'n' => some ([], .word ['u', 'l', 'l'] null)
  | '-' => some ([], .number .minus)
  | c =>
    match Text.digitValue? 10 c with
    | none => none
    | some 0 => some ([], .number (.zero false))
    | some d => some ([], .number (.digits false d))

/-- Reads a character: the tokens that end with it or before it, and what goes on. -/
def step (mode : Mode) (c : Char) : Option (List JsonToken × Mode) :=
  match mode with
  | .between => stepBetween c
  | .word [] _ => none
  | .word (expected :: rest) token =>
    if c ≠ expected then none
    else if rest.isEmpty then some ([token], .between)
    else some ([], .word rest token)
  | .number part =>
    match part.next? c with
    | some next => some ([], .number next)
    | none =>
      -- The number has ended, and the character begins what comes after it.
      match part.token?, stepBetween c with
      | some token, some (tokens, next) => some (token :: tokens, next)
      | _, _ => none
  | .string units =>
    if c = '"' then
      some ([string ((textOfUnits units.reverse).map String.ofList)], .between)
    else if c = '\\' then some ([], .escape units)
    else if c < ' ' then none
    else some ([], .string (c.toNat :: units))
  | .escape units =>
    if c = 'u' then some ([], .unicode units 4 0)
    else (shortEscape? c).map fun meant => ([], .string (meant.toNat :: units))
  | .unicode units missing value =>
    match Text.digitValue? 16 c with
    | none => none
    | some d =>
      if missing ≤ 1 then some ([], .string ((value * 16 + d) :: units))
      else some ([], .unicode units (missing - 1) (value * 16 + d))

/-- The tokens that end with the text. -/
def finish? : Mode → Option (List JsonToken)
  | .between => some []
  | .number part => part.token?.map ([·])
  | _ => none

/-- The tokens of the rest of a text. -/
def scanFrom? (mode : Mode) : List Char → Option (List JsonToken)
  | [] => finish? mode
  | c :: cs =>
    match step mode c with
    | none => none
    | some (tokens, next) => (scanFrom? next cs).map (tokens ++ ·)

/-- The tokens of a text. -/
def scan? (text : String) : Option (List JsonToken) := scanFrom? .between text.toList

end JsonToken

end TextTemplate
