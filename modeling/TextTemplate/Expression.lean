/-!
# Expressions

The tree that a template text compiles to. An expression is a sequence of pieces: plain text,
variables and calls, whose arguments are expressions again. Trees are generic in what stands at a
call: compiling puts the routine there, and a live expression the number of its instance.

* `Expression.relabel` copies a tree and changes what stands at its calls, from left to right.
* An expression without calls and variables remembers its text after the first evaluation, if it
  may (`Cache`).
-/

namespace TextTemplate

/-- What an expression remembers of its evaluations. -/
inductive Cache where
  /-- It must not remember anything. -/
  | disabled
  | vacant
  | filled (text : String)
deriving DecidableEq, Repr

namespace Cache

/-- The cache of a new expression. -/
def fresh (enabled : Bool) : Cache := if enabled then vacant else disabled

/-- The same kind of cache, without content. -/
def vacate : Cache → Cache
  | disabled => disabled
  | _ => vacant

/-- The text that is remembered. -/
def text? : Cache → Option String
  | filled text => some text
  | _ => none

/-- Whether a text may be remembered. -/
def isEnabled : Cache → Bool
  | disabled => false
  | _ => true

end Cache

mutual

/-- A unit of an expression. Positions are offsets of the opening `${` in the whole text. -/
inductive Piece (α : Type u) where
  | text (content : String)
  | var (name : String) (position : Nat)
  | call (key : String) (callee : α) (arguments : List (Expression α)) (position : Nat)

/-- A compiled template text, or a compiled argument of a call in one. -/
structure Expression (α : Type u) where
  raw : String
  pieces : List (Piece α)
  cache : Cache

end

namespace Piece

/-- Whether the contribution of a piece can differ between evaluations. -/
def isDynamic {α : Type u} : Piece α → Bool
  | text _ => false
  | var _ _ => true
  | call _ _ _ _ => true

end Piece

namespace Expression

variable {α : Type u} {β : Type v} {σ : Type w}

/-- The expression of an empty text. -/
def empty : Expression α := { raw := "", pieces := [], cache := .vacant }

/-- Whether an expression has no calls and no variables. -/
def isPureLiteral (e : Expression α) : Bool := e.pieces.all (!·.isDynamic)

/-- Whether the text of an expression is remembered. -/
def isCached (e : Expression α) : Bool := e.cache.text?.isSome

/-! ## What stands at the calls -/

mutual

/-- What stands at the calls of an expression, each call after those in its arguments. -/
def callees : Expression α → List α
  | ⟨_, pieces, _⟩ => calleesOfPieces pieces

/-- What stands at the calls of pieces. -/
def calleesOfPieces : List (Piece α) → List α
  | [] => []
  | .call _ callee arguments _ :: pieces =>
    calleesOfArguments arguments ++ callee :: calleesOfPieces pieces
  | .text _ :: pieces => calleesOfPieces pieces
  | .var _ _ :: pieces => calleesOfPieces pieces

/-- What stands at the calls of arguments. -/
def calleesOfArguments : List (Expression α) → List α
  | [] => []
  | e :: es => callees e ++ calleesOfArguments es

end

/-- The number of calls in an expression. -/
def callCount (e : Expression α) : Nat := e.callees.length

mutual

/-- Copies an expression and replaces what stands at its calls, passing a state from call to call
in the order of `callees`. The caches of the copy are vacant. -/
def relabel (f : α → σ → β × σ) : Expression α → σ → Expression β × σ
  | ⟨raw, pieces, cache⟩, s =>
    let (pieces, s) := relabelPieces f pieces s
    (⟨raw, pieces, cache.vacate⟩, s)

/-- Copies pieces. -/
def relabelPieces (f : α → σ → β × σ) : List (Piece α) → σ → List (Piece β) × σ
  | [], s => ([], s)
  | .text content :: pieces, s =>
    let (pieces, s) := relabelPieces f pieces s
    (.text content :: pieces, s)
  | .var name position :: pieces, s =>
    let (pieces, s) := relabelPieces f pieces s
    (.var name position :: pieces, s)
  | .call key callee arguments position :: pieces, s =>
    let (arguments, s) := relabelArguments f arguments s
    let (callee, s) := f callee s
    let (pieces, s) := relabelPieces f pieces s
    (.call key callee arguments position :: pieces, s)

/-- Copies arguments. -/
def relabelArguments (f : α → σ → β × σ) : List (Expression α) → σ → List (Expression β) × σ
  | [], s => ([], s)
  | e :: es, s =>
    let (e, s) := relabel f e s
    let (es, s) := relabelArguments f es s
    (e :: es, s)

end

/-! ## Paths -/

/-- The callee that a path leads to. A path names a piece by its index, which must be a call, and
goes on with the index of one of its arguments and a path in there. -/
def calleeAt? : Expression α → List Nat → Option α
  | e, [piece] =>
    match e.pieces[piece]? with
    | some (.call _ callee _ _) => some callee
    | _ => none
  | e, piece :: argument :: path =>
    match e.pieces[piece]? with
    | some (.call _ _ arguments _) =>
      match arguments[argument]? with
      | some inner => calleeAt? inner path
      | none => none
    | _ => none
  | _, [] => none

end Expression

end TextTemplate
