import TextTemplate.CompileError
import TextTemplate.Config
import TextTemplate.Expression
import TextTemplate.Token

/-!
# Reading references

The grammar of template texts, over tokens:

    text      := (plain | reference)*
    reference := "${" name ( "(" argument ("," argument)* ")" )? "}"
    argument  := (plain | reference | "(" argument ")")*

`Reader.step` reads one token. A `Reader` holds the pieces of the text so far, a stack of the
calls whose arguments are being read, and what the next token continues (`Mode`). A bare name is a
call if it is registered and a variable if not; a name with parentheses must be registered.

* `Reader.run` reads tokens one after the other, and `Reader.finish` ends the text.
* `parse` makes an expression of a text.
-/

namespace TextTemplate

/-- Pieces being put together: the finished ones, latest first, and the plain text after them. -/
structure Draft where
  pieces : List (Piece Routine) := []
  plain : String := ""

namespace Draft

/-- Appends plain text. -/
def write (d : Draft) (cs : List Char) : Draft := { d with plain := d.plain ++ String.ofList cs }

/-- The pieces, latest first, with the plain text as one of them unless it is empty. -/
def closed (d : Draft) : List (Piece Routine) :=
  if d.plain = "" then d.pieces else .text d.plain :: d.pieces

/-- Appends a piece. -/
def add (d : Draft) (piece : Piece Routine) : Draft := { pieces := piece :: d.closed }

/-- The pieces in order. -/
def finish (d : Draft) : List (Piece Routine) := d.closed.reverse

end Draft

/-- A call whose arguments are being read. -/
structure Frame where
  key : String
  routine : Routine
  /-- Where the `${` of the call stands. -/
  position : Nat
  /-- Where the `(` of the call stands. -/
  paren : Nat
  /-- How the call is written, from its `${` to the start of the argument being read. -/
  source : String
  /-- The arguments before that one, latest first. -/
  arguments : List (Expression Routine) := []
  /-- How that argument is written so far. -/
  raw : String := ""
  draft : Draft := {}
  /-- Where the plain parentheses stand that are open in it, innermost first. -/
  parens : List Nat := []

/-- What the next token continues. -/
inductive Mode where
  /-- Plain text, or an argument if a call is open. -/
  | content
  /-- The name of the reference that starts at `position`. -/
  | naming (position : Nat) (name : String)
  /-- A call that lacks its `}`. -/
  | closing (position : Nat) (source : String) (piece : Piece Routine)

/-- The state of reading a text. -/
structure Reader where
  outer : Draft := {}
  frames : List Frame := []
  mode : Mode := .content

/-- Whether a run of plain characters cannot be part of a name because of this one. -/
def isForbiddenInName (c : Char) : Bool := c = '$' || c = '{' || c = '\\'

/-- The first character that cannot be part of a name, and the octets before it. -/
def findForbidden? : List Char → Option (Char × Nat)
  | [] => none
  | c :: cs =>
    if isForbiddenInName c then some (c, 0)
    else (findForbidden? cs).map fun (found, offset) => (found, offset + c.utf8Size)

namespace Frame

/-- Appends text that stands for itself. -/
def write (f : Frame) (written plain : List Char) : Frame :=
  { f with raw := f.raw ++ String.ofList written, draft := f.draft.write plain }

/-- Appends a reference. -/
def add (f : Frame) (source : String) (piece : Piece Routine) : Frame :=
  { f with raw := f.raw ++ source, draft := f.draft.add piece }

/-- The arguments so far, latest first, the one being read included. -/
def allArguments (config : EngineConfig) (f : Frame) : List (Expression Routine) :=
  ⟨f.raw, f.draft.finish, Cache.fresh config.staticCaching⟩ :: f.arguments

/-- Goes on to the next argument after a comma. -/
def nextArgument (config : EngineConfig) (f : Frame) : Frame :=
  { f with
    source := f.source ++ f.raw ++ ","
    arguments := f.allArguments config
    raw := ""
    draft := {}
    parens := [] }

/-- The arguments of the call at its end. A single argument that is written as nothing is none. -/
def finalArguments (config : EngineConfig) (f : Frame) : List (Expression Routine) :=
  if f.arguments.isEmpty && f.raw = "" then [] else (f.allArguments config).reverse

end Frame

/-- The error of a call that a routine does not take so many arguments for, if it does not. -/
def arityError? (routine : Routine) (count position : Nat) : Option CompileError :=
  let signature := routine.signature
  if signature.accepts count then none
  else some (.invalidArity signature.name signature.minArity signature.maxArity count position)

namespace Reader

variable (registry : Registry) (config : EngineConfig)

/-- Hands a finished reference to the argument or text that it stands in. -/
def supply (r : Reader) (source : String) (piece : Piece Routine) : Reader :=
  match r.frames with
  | [] => { r with outer := r.outer.add piece, mode := .content }
  | f :: fs => { r with frames := f.add source piece :: fs, mode := .content }

/-- Begins a reference at an offset. -/
def openReference (r : Reader) (position : Nat) : Except CompileError Reader :=
  if r.frames.length < config.maxNestingDepth then .ok { r with mode := .naming position "" }
  else .error (.nestingTooDeep config.maxNestingDepth position)

/-- Ends a reference that has a name only. -/
def finishName (r : Reader) (position : Nat) (name : String) : Except CompileError Reader :=
  let source := "$\x7b" ++ name ++ "\x7d"
  match registry.lookup name with
  | none => .ok (r.supply source (.var name position))
  | some routine =>
    match arityError? routine 0 position with
    | some e => .error e
    | none => .ok (r.supply source (.call name routine [] position))

/-- Begins the arguments of a call. -/
def openCall (r : Reader) (position : Nat) (name : String) (paren : Nat) :
    Except CompileError Reader :=
  match registry.lookup name with
  | none => .error (.unknownFunction name position)
  | some routine =>
    let frame : Frame :=
      { key := name, routine, position, paren, source := "$\x7b" ++ name ++ "(" }
    .ok { r with frames := frame :: r.frames, mode := .content }

/-- Ends the arguments of the innermost call `f`. -/
def finishArguments (r : Reader) (f : Frame) (fs : List Frame) : Except CompileError Reader :=
  let arguments := f.finalArguments config
  match arityError? f.routine arguments.length f.position with
  | some e => .error e
  | none =>
    let piece := .call f.key f.routine arguments f.position
    .ok { r with frames := fs, mode := .closing f.position (f.source ++ f.raw ++ ")") piece }

/-- Reads a token of a name. -/
def stepNaming (r : Reader) (position : Nat) (name : String) (l : Lexeme) :
    Except CompileError Reader :=
  match l.token with
  | .text run =>
    match findForbidden? run with
    | some (found, offset) => .error (.unexpectedCharacter found .identifier (l.start + offset))
    | none => .ok { r with mode := .naming position (name ++ String.ofList run) }
  | .leftParen =>
    if name = "" then .error (.emptyReference position)
    else r.openCall registry position name l.start
  | .rightBrace =>
    if name = "" then .error (.emptyReference position)
    else r.finishName registry position name
  | other => .error (.unexpectedCharacter other.firstChar .identifier l.start)

/-- Reads the token after the arguments of a call. -/
def stepClosing (r : Reader) (source : String) (piece : Piece Routine) (l : Lexeme) :
    Except CompileError Reader :=
  match l.token with
  | .rightBrace => .ok (r.supply (source ++ "\x7d") piece)
  | other => .error (.unexpectedCharacter other.firstChar .closingBrace l.start)

/-- Reads a token of an argument of the innermost call `f`. A comma or parenthesis is plain text
inside of plain parentheses, and a backslash is dropped where it quotes. -/
def stepArgument (r : Reader) (f : Frame) (fs : List Frame) (l : Lexeme) :
    Except CompileError Reader :=
  let plain := fun (f : Frame) (cs : List Char) =>
    Except.ok { r with frames := f.write l.token.source cs :: fs }
  match l.token, f.parens with
  -- Outside of plain parentheses, these two end the argument.
  | .comma, [] => .ok { r with frames := f.nextArgument config :: fs }
  | .rightParen, [] => r.finishArguments config f fs
  | .openReference, _ => r.openReference config l.start
  | .leftParen, parens => plain { f with parens := l.start :: parens } ['(']
  | .rightParen, _ :: parens => plain { f with parens } [')']
  | .escaped c, _ => plain f [c]
  | other, _ => plain f other.source

/-- Reads a token outside of every reference; `next` is the token after it. Marks stand for
themselves, and a backslash is dropped only where it keeps a `${` from opening a reference. -/
def stepOuter (r : Reader) (l : Lexeme) (next : Option Token) : Except CompileError Reader :=
  match l.token with
  | .openReference => r.openReference config l.start
  | .escaped '$' =>
    -- The backslash is meant to keep a reference from opening only if a brace follows.
    if next.map Token.firstChar = some '{' then .ok { r with outer := r.outer.write ['$'] }
    else .ok { r with outer := r.outer.write l.token.source }
  | other => .ok { r with outer := r.outer.write other.source }

/-- Reads a token; `next` is the token after it. -/
def step (r : Reader) (l : Lexeme) (next : Option Token) : Except CompileError Reader :=
  match r.mode with
  | .naming position name => r.stepNaming registry position name l
  | .closing _ source piece => r.stepClosing source piece l
  | .content =>
    match r.frames with
    | [] => r.stepOuter config l next
    | f :: fs => r.stepArgument config f fs l

/-- Reads tokens until one has no place. -/
def run : Reader → List Lexeme → Except CompileError Reader
  | r, [] => .ok r
  | r, l :: ls =>
    match r.step registry config l (ls.head?.map Lexeme.token) with
    | .error e => .error e
    | .ok next => run next ls

/-- The pieces of a text that ends here. What is still open is an error, the innermost first. -/
def finish (r : Reader) : Except CompileError (List (Piece Routine)) :=
  match r.mode with
  | .naming position _ => .error (.unterminatedReference position)
  | .closing position _ _ => .error (.unterminatedReference position)
  | .content =>
    match r.frames with
    | [] => .ok r.outer.finish
    | f :: _ => .error (.unbalancedParentheses (f.parens.head?.getD f.paren))

end Reader

/-- The expression that a text stands for. -/
def parse (registry : Registry) (config : EngineConfig) (text : String) :
    Except CompileError (Expression Routine) :=
  match Reader.run registry config {} (Token.scan text) with
  | .error e => .error e
  | .ok r =>
    match r.finish with
    | .error e => .error e
    | .ok pieces => .ok ⟨text, pieces, Cache.fresh config.staticCaching⟩

end TextTemplate
