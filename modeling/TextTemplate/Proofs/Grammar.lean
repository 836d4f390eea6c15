import TextTemplate.Reader

/-!
# Grammar

What a text stands for, by rules of derivation. A text is first split into symbols from the left
(`Splits`); the rules then say how symbols make up references, arguments and templates.

* `Reference`, `Arguments` and `Argument` are the rules inside of a `${`, `Template` those outside.
  Each relates an offset and symbols to what they stand for.
* `Derives` relates a whole text to its tree.

A derived sequence has a piece for every plain character. The tree has these pieces with adjacent
plain texts put together (`mergeTexts`).
-/

namespace TextTemplate.Grammar

/-! ## Symbols -/

/-- A unit of a text. -/
inductive Symbol where
  /-- A backslash with a character that it can quote. -/
  | pair (c : Char)
  /-- The `${` of a reference. -/
  | opening
  /-- A character by itself. -/
  | single (c : Char)
deriving DecidableEq, Repr

/-- How a symbol is written. -/
def Symbol.written : Symbol → List Char
  | pair c => ['\\', c]
  | opening => ['$', '{']
  | single c => [c]

/-- How symbols are written. -/
def spelling (us : List Symbol) : List Char := us.flatMap Symbol.written

/-- The number of octets of symbols. -/
def width (us : List Symbol) : Nat := utf8Width (spelling us)

/-- The symbols of a text, read from the left: a backslash forms a pair with a `$`, a comma or a
backslash after it, and a `$` that is not in a pair an opening with a brace after it. -/
inductive Splits : List Char → List Symbol → Prop where
  | nil : Splits [] []
  | pair {c cs us} (quotable : Token.isQuotable c = true) (rest : Splits cs us) :
      Splits ('\\' :: c :: cs) (.pair c :: us)
  | opening {cs us} (rest : Splits cs us) : Splits ('$' :: '{' :: cs) (.opening :: us)
  | single {c cs us} (unpaired : c = '\\' → ∀ d ∈ cs.head?, Token.isQuotable d = false)
      (unopened : c = '$' → cs.head? ≠ some '{') (rest : Splits cs us) :
      Splits (c :: cs) (.single c :: us)

/-! ## Sequences -/

/-- A piece of plain text. -/
def plain (cs : List Char) : Piece Routine := .text (String.ofList cs)

/-- Puts plain text in front of pieces; it joins a text that they start with. -/
def consText {α : Type u} (s : String) : List (Piece α) → List (Piece α)
  | .text t :: ps => if s = "" then .text t :: ps else .text (s ++ t) :: ps
  | ps => if s = "" then ps else .text s :: ps

/-- Pieces with adjacent plain texts put together. -/
def mergeTexts {α : Type u} : List (Piece α) → List (Piece α)
  | [] => []
  | .text s :: ps => consText s (mergeTexts ps)
  | p :: ps => p :: mergeTexts ps

/-- The argument that symbols stand for. -/
def argument (config : EngineConfig) (us : List Symbol) (ps : List (Piece Routine)) :
    Expression Routine :=
  ⟨String.ofList (spelling us), mergeTexts ps, Cache.fresh config.staticCaching⟩

/-- The arguments of a call with these arguments written. One that is written as nothing, and is
the only one, is none. -/
def callArguments : List (Expression Routine) → List (Expression Routine)
  | [e] => if e.raw = "" then [] else [e]
  | es => es

/-- The characters that no name has. -/
def reserved : List Char := ['$', '{', '}', '(', ')', ',', '\\']

/-- Whether characters can name a routine or a variable. -/
def IsIdentifier (name : List Char) : Prop := name ≠ [] ∧ ∀ c ∈ name, c ∉ reserved

/-! ## Rules -/

variable (registry : Registry) (config : EngineConfig)

mutual

/-- The symbols at offset `n` are a reference that stands for the piece. Its depth is one more than
the number of references that it stands in. -/
inductive Reference : (depth n : Nat) → List Symbol → Piece Routine → Prop where
  | var {depth n name} (allowed : depth ≤ config.maxNestingDepth) (named : IsIdentifier name)
      (unknown : registry.lookup (String.ofList name) = none) :
      Reference depth n (.opening :: name.map .single ++ [.single '}'])
        (.var (String.ofList name) n)
  | bareCall {depth n name routine} (allowed : depth ≤ config.maxNestingDepth)
      (named : IsIdentifier name) (known : registry.lookup (String.ofList name) = some routine)
      (accepted : routine.signature.accepts 0 = true) :
      Reference depth n (.opening :: name.map .single ++ [.single '}'])
        (.call (String.ofList name) routine [] n)
  | call {depth n name routine us es} (allowed : depth ≤ config.maxNestingDepth)
      (named : IsIdentifier name) (known : registry.lookup (String.ofList name) = some routine)
      (arguments : Arguments depth (n + 2 + utf8Width name + 1) us es)
      (accepted : routine.signature.accepts (callArguments es).length = true) :
      Reference depth n
        (.opening :: name.map .single ++ .single '(' :: us ++ [.single ')', .single '}'])
        (.call (String.ofList name) routine (callArguments es) n)

/-- The symbols are the arguments, with commas between them, of a call at this depth. -/
inductive Arguments : (depth n : Nat) → List Symbol → List (Expression Routine) → Prop where
  | last {depth n us ps} (only : Argument depth 0 n us ps) :
      Arguments depth n us [argument config us ps]
  | more {depth n us ps vs es} (first : Argument depth 0 n us ps)
      (rest : Arguments depth (n + width us + 1) vs es) :
      Arguments depth n (us ++ .single ',' :: vs) (argument config us ps :: es)

/-- The symbols are the rest of an argument in which `k` plain parentheses are open. -/
inductive Argument : (depth k n : Nat) → List Symbol → List (Piece Routine) → Prop where
  | nil {depth n} : Argument depth 0 n [] []
  | pair {depth k n c us ps} (rest : Argument depth k (n + 1 + c.utf8Size) us ps) :
      Argument depth k n (.pair c :: us) (plain [c] :: ps)
  | leftParen {depth k n us ps} (rest : Argument depth (k + 1) (n + 1) us ps) :
      Argument depth k n (.single '(' :: us) (plain ['('] :: ps)
  | rightParen {depth k n us ps} (rest : Argument depth k (n + 1) us ps) :
      Argument depth (k + 1) n (.single ')' :: us) (plain [')'] :: ps)
  | comma {depth k n us ps} (rest : Argument depth (k + 1) (n + 1) us ps) :
      Argument depth (k + 1) n (.single ',' :: us) (plain [','] :: ps)
  | single {depth k n c us ps} (ordinary : c ∉ ['(', ')', ','])
      (rest : Argument depth k (n + c.utf8Size) us ps) :
      Argument depth k n (.single c :: us) (plain [c] :: ps)
  | reference {depth k n us p vs ps} (inner : Reference (depth + 1) n us p)
      (rest : Argument depth k (n + width us) vs ps) :
      Argument depth k n (us ++ vs) (p :: ps)

end

/-- The symbols at offset `n` are the rest of a template. A backslash is dropped only where it
keeps a `${` from being an opening. -/
inductive Template : (n : Nat) → List Symbol → List (Piece Routine) → Prop where
  | nil {n} : Template n [] []
  | escape {n us ps} (rest : Template (n + 2) (.single '{' :: us) ps) :
      Template n (.pair '$' :: .single '{' :: us) (plain ['$'] :: ps)
  | pair {n c us ps} (kept : c = '$' → us.head? ≠ some (.single '{'))
      (rest : Template (n + 1 + c.utf8Size) us ps) :
      Template n (.pair c :: us) (plain ['\\', c] :: ps)
  | single {n c us ps} (rest : Template (n + c.utf8Size) us ps) :
      Template n (.single c :: us) (plain [c] :: ps)
  | reference {n us p vs ps} (inner : Reference registry config 1 n us p)
      (rest : Template (n + width us) vs ps) :
      Template n (us ++ vs) (p :: ps)

/-- A text stands for a tree. -/
def Derives (text : String) (tree : Expression Routine) : Prop :=
  ∃ us ps, Splits text.toList us ∧ Template registry config 0 us ps ∧
    tree = ⟨text, mergeTexts ps, Cache.fresh config.staticCaching⟩

end TextTemplate.Grammar
