import TextTemplate.Routine
import TextTemplate.Text.Blank
import TextTemplate.Text.FormEncoding
import TextTemplate.Text.Integer

/-!
# Letters

Routines on the characters of a text: letter case, form encoding and code points.
-/

namespace TextTemplate.Library

/-- A way to change letter case. -/
inductive CaseMode where
  | upper
  | lower
  | capitalize
deriving DecidableEq, Repr

namespace CaseMode

/-- The mode that a text names in either case; an empty one names upper case. -/
def ofText? (s : String) : Option CaseMode :=
  if s = "" || Text.equalIgnoringAsciiCase s "upper" then some upper
  else if Text.equalIgnoringAsciiCase s "lower" then some lower
  else if Text.equalIgnoringAsciiCase s "capitalize" then some capitalize
  else none

/-- A text with its letter case changed. -/
def apply : CaseMode → String → String
  | upper => Text.upper
  | lower => Text.lower
  | capitalize => Text.capitalize

end CaseMode

/-- A text in another letter case. -/
def changeCase : Routine :=
  .stateless
    (.ofParameters "__changeCase"
      [.required "text" "Text to transform", .omissible "mode" "UPPER, LOWER or CAPITALIZE"])
    fun call =>
      let mode := Text.trim (call.argument 1)
      match CaseMode.ofText? mode with
      | some m => .ok (m.apply (call.argument 0))
      | none =>
        .error (.invalidArgument "__changeCase" 1 ("unknown case mode '" ++ mode ++ "'"))

/-- The form encoding of a text. -/
def urlEncode : Routine :=
  .stateless (.ofParameters "__urlencode" [.required "text" "Text to encode"])
    fun call => .ok (Text.FormEncoding.encode (call.argument 0))

/-- The text that a form encoding stands for. -/
def urlDecode : Routine :=
  .stateless (.ofParameters "__urldecode" [.required "text" "Text to decode"])
    fun call =>
      match Text.FormEncoding.decode (call.argument 0) with
      | .ok text => .ok text
      | .error e => .error (.invalidArgument "__urldecode" 0 e.message)

/-- The number that the spelling of a code point stands for. -/
def codePointNumber (cs : List Char) : Except Text.IntegerError Int :=
  match cs with
  | '0' :: 'x' :: digits | '0' :: 'X' :: digits => Text.Bounds.unsigned32.read 16 digits
  | digits => Text.Bounds.unsigned32.read 10 digits

/-- The character whose code point a text spells, in decimal, or in hexadecimal after `0x`. -/
def charOfSpelling? (s : String) : Option Char :=
  match codePointNumber (Text.trim s).toList with
  | .error _ => none
  | .ok n => if n.toNat.isValidChar then some (Char.ofNat n.toNat) else none

/-- The characters that arguments spell, the first of which has the index `index`. -/
def charsOfSpellings (index : Nat) : List String → Except InvocationError (List Char)
  | [] => .ok []
  | s :: rest =>
    match charOfSpelling? s with
    | none =>
      .error (.invalidArgument "__char" index ("'" ++ s ++ "' is not a valid character code"))
    | some c => (charsOfSpellings (index + 1) rest).map (c :: ·)

/-- The text with the given code points. -/
def char : Routine :=
  .ofArguments
    (.variadic "__char"
      [.required "code" "Unicode code point, decimal or 0x-prefixed hexadecimal"])
    fun arguments => (charsOfSpellings 0 arguments).map String.ofList

end TextTemplate.Library
