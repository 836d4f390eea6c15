/-!
# Tokens

A template text is a sequence of tokens: runs of plain text, quoted characters, and the marks of
the reference grammar. Whether a mark has a meaning depends on where it stands, so every text has
tokens.

* `Token.ofChars` splits a text, and `Token.scan` adds where each token starts.
* `sources_ofChars`: the spellings of the tokens, put together, are the text.
-/

namespace TextTemplate

/-- A lexical unit of a template text. -/
inductive Token where
  /-- Characters that begin no other token. -/
  | text (run : List Char)
  /-- A backslash and a character that can be quoted. -/
  | escaped (c : Char)
  /-- The opening `${` of a reference. -/
  | openReference
  | leftParen
  | rightParen
  | comma
  | rightBrace
deriving DecidableEq, Repr

namespace Token

/-- How a token is written. -/
def source : Token → List Char
  | text run => run
  | escaped c => ['\\', c]
  | openReference => ['$', '{']
  | leftParen => ['(']
  | rightParen => [')']
  | comma => [',']
  | rightBrace => ['}']

/-- The character that a token starts with. -/
def firstChar (t : Token) : Char := t.source.headD ' '

end Token

/-- The number of octets of characters in UTF-8. -/
def utf8Width : List Char → Nat
  | [] => 0
  | c :: cs => c.utf8Size + utf8Width cs

theorem utf8Width_append (cs ds : List Char) :
    utf8Width (cs ++ ds) = utf8Width cs + utf8Width ds := by
  induction cs with
  | nil => simp [utf8Width]
  | cons c cs ih => simp [utf8Width, ih, Nat.add_assoc]

namespace Token

/-- The number of octets of a token. -/
def width (t : Token) : Nat := utf8Width t.source

/-- The characters that a backslash quotes. -/
def isQuotable (c : Char) : Bool := c = '$' || c = ',' || c = '\\'

/-- The token that a character is by itself. -/
def mark? : Char → Option Token
  | '(' => some leftParen
  | ')' => some rightParen
  | ',' => some comma
  | '}' => some rightBrace
  | _ => none

/-- Puts a plain character in front of tokens; it joins a run that they start with. -/
def consPlain (c : Char) : List Token → List Token
  | text run :: ts => text (c :: run) :: ts
  | ts => text [c] :: ts

/-- The tokens of a text. -/
def ofChars : List Char → List Token
  | [] => []
  | '$' :: '{' :: cs => openReference :: ofChars cs
  | '\\' :: c :: cs =>
    if isQuotable c then escaped c :: ofChars cs else consPlain '\\' (ofChars (c :: cs))
  | c :: cs =>
    match mark? c with
    | some t => t :: ofChars cs
    | none => consPlain c (ofChars cs)

theorem sources_consPlain (c : Char) (ts : List Token) :
    (consPlain c ts).flatMap source = c :: ts.flatMap source := by
  unfold consPlain
  split <;> simp [source]

theorem source_of_mark? {c : Char} {t : Token} (h : mark? c = some t) : t.source = [c] := by
  unfold mark? at h
  split at h <;> cases h <;> rfl

/-- Nothing of a text is lost in its tokens. -/
theorem sources_ofChars (cs : List Char) : (ofChars cs).flatMap source = cs := by
  fun_induction ofChars cs with
  | case1 => rfl
  | case2 cs ih => simp [source, ih]
  | case3 c cs h ih => simp [source, ih]
  | case4 c cs h ih => simp [sources_consPlain, ih]
  | case5 c cs h₁ h₂ t ht ih => simp [source_of_mark? ht, ih]
  | case6 c cs h₁ h₂ h ih => simp [sources_consPlain, ih]

end Token

/-- A token and the offset in octets at which it starts. -/
structure Lexeme where
  start : Nat
  token : Token
deriving DecidableEq, Repr

namespace Lexeme

/-- The offset at which a token ends. -/
def stop (l : Lexeme) : Nat := l.start + l.token.width

/-- Places tokens one after the other, the first at offset `start`. -/
def place (start : Nat) : List Token → List Lexeme
  | [] => []
  | t :: ts => ⟨start, t⟩ :: place (start + t.width) ts

end Lexeme

/-- The tokens of a text with their offsets. -/
def Token.scan (text : String) : List Lexeme := Lexeme.place 0 (Token.ofChars text.toList)

end TextTemplate
