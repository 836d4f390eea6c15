import TextTemplate.Reader

/-!
# Reading is uniform

How a text is read depends neither on where it stands nor on what its expressions may remember.

* `Reader.transfer` moves everything that a reader has put together further on in the text, and
  changes the caches in it.
* `Reader.step_transfer` says that this commutes with each step, and `Reader.complete_transfer` with
  the reading of whole texts. Errors move on in the same way.
-/

namespace TextTemplate

universe u

variable {α : Type u}

/-! ## Trees -/

mutual

/-- The same expression `n` octets further on, with other caches. -/
def Expression.transfer (g : Cache → Cache) (n : Nat) : Expression α → Expression α
  | ⟨raw, pieces, cache⟩ => ⟨raw, transferPieces g n pieces, g cache⟩

/-- The same piece `n` octets further on, with other caches in its arguments. -/
def Piece.transfer (g : Cache → Cache) (n : Nat) : Piece α → Piece α
  | .text content => .text content
  | .var name position => .var name (position + n)
  | .call key callee arguments position =>
    .call key callee (transferArguments g n arguments) (position + n)

/-- The same pieces `n` octets further on, with other caches in their arguments. -/
def transferPieces (g : Cache → Cache) (n : Nat) : List (Piece α) → List (Piece α)
  | [] => []
  | piece :: pieces => piece.transfer g n :: transferPieces g n pieces

/-- The same arguments `n` octets further on, with other caches. -/
def transferArguments (g : Cache → Cache) (n : Nat) : List (Expression α) → List (Expression α)
  | [] => []
  | e :: es => e.transfer g n :: transferArguments g n es

end

theorem transferPieces_eq_map (g : Cache → Cache) (n : Nat) (pieces : List (Piece α)) :
    transferPieces g n pieces = pieces.map (Piece.transfer g n) := by
  induction pieces with
  | nil => rfl
  | cons piece pieces ih => rw [transferPieces, ih, List.map_cons]

theorem transferArguments_eq_map (g : Cache → Cache) (n : Nat) (es : List (Expression α)) :
    transferArguments g n es = es.map (Expression.transfer g n) := by
  induction es with
  | nil => rfl
  | cons e es ih => rw [transferArguments, ih, List.map_cons]

/-! ## Errors -/

namespace CompileError

/-- The same error `n` octets further on. -/
def shift (n : Nat) : CompileError → CompileError
  | unterminatedReference p => unterminatedReference (p + n)
  | unbalancedParentheses p => unbalancedParentheses (p + n)
  | unexpectedCharacter found expected p => unexpectedCharacter found expected (p + n)
  | emptyReference p => emptyReference (p + n)
  | unknownFunction name p => unknownFunction name (p + n)
  | invalidArity name min max actual p => invalidArity name min max actual (p + n)
  | nestingTooDeep limit p => nestingTooDeep limit (p + n)

theorem shift_zero (e : CompileError) : e.shift 0 = e := by
  cases e <;> rfl

end CompileError

/-- An outcome of reading, `n` octets further on: the error, or what was read. -/
def moveOutcome {ρ σ : Type u} (n : Nat) (move : ρ → σ) :
    Except CompileError ρ → Except CompileError σ
  | .error e => .error (e.shift n)
  | .ok r => .ok (move r)

/-! ## What is put together -/

section Transfer

variable (g : Cache → Cache) (n : Nat)

namespace Draft

/-- The same draft, moved and with other caches. -/
def transfer (d : Draft) : Draft := { d with pieces := transferPieces g n d.pieces }

theorem closed_transfer (d : Draft) :
    (d.transfer g n).closed = transferPieces g n d.closed := by
  unfold closed
  split <;> simp_all [transfer, transferPieces, Piece.transfer]

theorem transfer_add (d : Draft) (piece : Piece Routine) :
    (d.add piece).transfer g n = (d.transfer g n).add (piece.transfer g n) := by
  simp only [add, closed_transfer]
  rfl

theorem finish_transfer (d : Draft) :
    (d.transfer g n).finish = transferPieces g n d.finish := by
  simp only [finish, closed_transfer, transferPieces_eq_map, List.map_reverse]

end Draft

/-- The configurations differ in nothing but what new expressions may remember. -/
structure ConfigTransfer (config config' : EngineConfig) : Prop where
  cache : Cache.fresh config'.staticCaching = g (Cache.fresh config.staticCaching)
  maxNestingDepth : config'.maxNestingDepth = config.maxNestingDepth

variable {g} {config config' : EngineConfig} (hc : ConfigTransfer g config config')

namespace Frame

/-- The same frame, moved and with other caches. -/
def transfer (g : Cache → Cache) (n : Nat) (f : Frame) : Frame :=
  { f with
    position := f.position + n
    paren := f.paren + n
    arguments := transferArguments g n f.arguments
    draft := f.draft.transfer g n
    parens := f.parens.map (· + n) }

theorem transfer_add (f : Frame) (source : String) (piece : Piece Routine) :
    (f.add source piece).transfer g n = (f.transfer g n).add source (piece.transfer g n) := by
  simp only [add, transfer, Draft.transfer_add]

include hc in
theorem allArguments_transfer (f : Frame) :
    (f.transfer g n).allArguments config' = transferArguments g n (f.allArguments config) := by
  simp only [allArguments, transfer, Draft.finish_transfer, transferArguments,
    Expression.transfer, hc.cache]

include hc in
theorem transfer_nextArgument (f : Frame) :
    (f.nextArgument config).transfer g n = (f.transfer g n).nextArgument config' := by
  simp only [nextArgument, allArguments_transfer n hc]
  rfl

include hc in
theorem finalArguments_transfer (f : Frame) :
    (f.transfer g n).finalArguments config' = transferArguments g n (f.finalArguments config) := by
  have he : (transferArguments g n f.arguments).isEmpty = f.arguments.isEmpty := by
    simp [transferArguments_eq_map]
  -- Whether there are any arguments at all does not change.
  have hf : (f.transfer g n).finalArguments config' =
      if f.arguments.isEmpty && f.raw = "" then []
      else (transferArguments g n (f.allArguments config)).reverse := by
    rw [← he, ← allArguments_transfer n hc]
    rfl
  rw [hf]
  unfold finalArguments
  split
  · rfl
  · rw [transferArguments_eq_map, transferArguments_eq_map, List.map_reverse]

end Frame

/-- The same mode, moved and with other caches. -/
def Mode.transfer (g : Cache → Cache) (n : Nat) : Mode → Mode
  | .content => .content
  | .naming position name => .naming (position + n) name
  | .closing position source piece => .closing (position + n) source (piece.transfer g n)

/-- The same token `n` octets further on. -/
def Lexeme.shift (n : Nat) (l : Lexeme) : Lexeme := ⟨l.start + n, l.token⟩

theorem Lexeme.place_add (start : Nat) (ts : List Token) :
    Lexeme.place (start + n) ts = (Lexeme.place start ts).map (Lexeme.shift n) := by
  induction ts generalizing start with
  | nil => rfl
  | cons t ts ih =>
    have hs : start + n + t.width = start + t.width + n := by omega
    rw [place, place, List.map_cons, hs, ih]
    rfl

theorem arityError?_shift (routine : Routine) (count position : Nat) :
    arityError? routine count (position + n) =
      (arityError? routine count position).map (CompileError.shift n) := by
  simp only [arityError?]
  split <;> rfl

namespace Reader

/-- The same state of reading, moved and with other caches. -/
def transfer (g : Cache → Cache) (n : Nat) (r : Reader) : Reader :=
  { outer := r.outer.transfer g n
    frames := r.frames.map (Frame.transfer g n)
    mode := r.mode.transfer g n }

/-! ## Steps -/

variable (registry : Registry)

theorem transfer_supply (r : Reader) (source : String) (piece : Piece Routine) :
    (r.supply source piece).transfer g n =
      (r.transfer g n).supply source (piece.transfer g n) := by
  rcases r with ⟨outer, frames, mode⟩
  cases frames with
  | nil => simp only [supply, transfer, List.map_nil, Draft.transfer_add, Mode.transfer]
  | cons f fs => simp only [supply, transfer, List.map_cons, Frame.transfer_add, Mode.transfer]

include hc in
theorem openReference_transfer (r : Reader) (position : Nat) :
    (r.transfer g n).openReference config' (position + n) =
      moveOutcome n (transfer g n) (r.openReference config position) := by
  simp only [openReference, transfer, List.length_map, hc.maxNestingDepth]
  split <;> rfl

theorem finishName_transfer (r : Reader) (position : Nat) (name : String) :
    (r.transfer g n).finishName registry (position + n) name =
      moveOutcome n (transfer g n) (r.finishName registry position name) := by
  simp only [finishName]
  cases registry.lookup name with
  | none => simp only [moveOutcome, transfer_supply, Piece.transfer]
  | some routine =>
    simp only [arityError?_shift]
    cases arityError? routine 0 position with
    | none =>
      simp only [Option.map_none, moveOutcome, transfer_supply, Piece.transfer, transferArguments]
    | some e => rfl

theorem openCall_transfer (r : Reader) (position : Nat) (name : String) (paren : Nat) :
    (r.transfer g n).openCall registry (position + n) name (paren + n) =
      moveOutcome n (transfer g n) (r.openCall registry position name paren) := by
  unfold openCall
  split <;> rfl

include hc in
theorem finishArguments_transfer (r : Reader) (f : Frame) (fs : List Frame) :
    (r.transfer g n).finishArguments config' (f.transfer g n) (fs.map (Frame.transfer g n)) =
      moveOutcome n (transfer g n) (r.finishArguments config f fs) := by
  have hl : (transferArguments g n (f.finalArguments config)).length =
      (f.finalArguments config).length := by
    rw [transferArguments_eq_map, List.length_map]
  have ha : arityError? (f.transfer g n).routine
        (transferArguments g n (f.finalArguments config)).length (f.transfer g n).position =
      (arityError? f.routine (f.finalArguments config).length f.position).map
        (CompileError.shift n) := by
    rw [hl]
    exact arityError?_shift n f.routine _ f.position
  simp only [finishArguments, Frame.finalArguments_transfer n hc, ha]
  cases arityError? f.routine (f.finalArguments config).length f.position <;> rfl

theorem stepNaming_transfer (r : Reader) (position : Nat) (name : String) (l : Lexeme) :
    (r.transfer g n).stepNaming registry (position + n) name (l.shift n) =
      moveOutcome n (transfer g n) (r.stepNaming registry position name l) := by
  rcases l with ⟨start, token⟩
  cases token with
  | text run =>
    simp only [stepNaming, Lexeme.shift]
    cases findForbidden? run with
    | none => rfl
    | some found =>
      have hs : start + n + found.2 = start + found.2 + n := by omega
      simp only [moveOutcome, CompileError.shift, hs]
  | leftParen =>
    simp only [stepNaming, Lexeme.shift]
    split
    · rfl
    · exact openCall_transfer n registry r position name start
  | rightBrace =>
    simp only [stepNaming, Lexeme.shift]
    split
    · rfl
    · exact finishName_transfer n registry r position name
  | escaped | openReference | rightParen | comma => rfl

theorem stepClosing_transfer (r : Reader) (source : String) (piece : Piece Routine)
    (l : Lexeme) :
    (r.transfer g n).stepClosing source (piece.transfer g n) (l.shift n) =
      moveOutcome n (transfer g n) (r.stepClosing source piece l) := by
  rcases l with ⟨start, token⟩
  cases token with
  | rightBrace => simp only [stepClosing, Lexeme.shift, moveOutcome, transfer_supply]
  | _ => rfl

include hc in
theorem stepArgument_transfer (r : Reader) (f : Frame) (fs : List Frame) (l : Lexeme) :
    (r.transfer g n).stepArgument config' (f.transfer g n) (fs.map (Frame.transfer g n))
        (l.shift n) =
      moveOutcome n (transfer g n) (r.stepArgument config f fs l) := by
  rcases l with ⟨start, token⟩
  -- Whether a comma or parenthesis ends the argument depends on the open parentheses alone.
  have hparens : (f.transfer g n).parens = f.parens.map (· + n) := rfl
  cases token with
  | comma =>
    cases hp : f.parens with
    | nil =>
      simp only [stepArgument, Lexeme.shift, hparens, hp, List.map_nil, moveOutcome, transfer,
        List.map_cons, Frame.transfer_nextArgument n hc]
    | cons p ps =>
      simp only [stepArgument, Lexeme.shift, hparens, hp, List.map_cons, moveOutcome]
      rfl
  | rightParen =>
    cases hp : f.parens with
    | nil =>
      simp only [stepArgument, Lexeme.shift, hparens, hp, List.map_nil]
      exact finishArguments_transfer n hc r f fs
    | cons p ps =>
      simp only [stepArgument, Lexeme.shift, hparens, hp, List.map_cons, moveOutcome]
      rfl
  | openReference => exact openReference_transfer n hc r start
  | _ => rfl

include hc in
theorem stepOuter_transfer (r : Reader) (l : Lexeme) (next : Option Token) :
    (r.transfer g n).stepOuter config' (l.shift n) next =
      moveOutcome n (transfer g n) (r.stepOuter config l next) := by
  unfold stepOuter Lexeme.shift
  simp only
  split
  · exact openReference_transfer n hc r l.start
  · split <;> rfl
  · rfl

include hc in
/-- Reading a token commutes with moving on and changing caches. -/
theorem step_transfer (r : Reader) (l : Lexeme) (next : Option Token) :
    (r.transfer g n).step registry config' (l.shift n) next =
      moveOutcome n (transfer g n) (r.step registry config l next) := by
  rcases r with ⟨outer, frames, mode⟩
  cases mode with
  | naming position name =>
    exact stepNaming_transfer n registry ⟨outer, frames, _⟩ position name l
  | closing position source piece =>
    exact stepClosing_transfer n ⟨outer, frames, _⟩ source piece l
  | content =>
    cases frames with
    | nil => exact stepOuter_transfer n hc ⟨outer, [], _⟩ l next
    | cons f fs => exact stepArgument_transfer n hc ⟨outer, f :: fs, _⟩ f fs l

include hc in
/-- Reading tokens commutes with moving on and changing caches. -/
theorem run_transfer (r : Reader) (ls : List Lexeme) :
    (r.transfer g n).run registry config' (ls.map (Lexeme.shift n)) =
      moveOutcome n (transfer g n) (r.run registry config ls) := by
  induction ls generalizing r with
  | nil => rfl
  | cons l ls ih =>
    have hnext : (ls.map (Lexeme.shift n)).head?.map Lexeme.token =
        ls.head?.map Lexeme.token := by
      cases ls <;> rfl
    simp only [List.map_cons, run, hnext, step_transfer n hc]
    cases r.step registry config l (ls.head?.map Lexeme.token) with
    | error e => rfl
    | ok next => exact ih next

theorem finish_reader_transfer (r : Reader) :
    (r.transfer g n).finish = moveOutcome n (transferPieces g n) r.finish := by
  rcases r with ⟨outer, frames, mode⟩
  cases mode with
  | naming | closing => rfl
  | content =>
    cases frames with
    | nil =>
      simp only [finish, transfer, Mode.transfer, List.map_nil, Draft.finish_transfer, moveOutcome]
    | cons f fs =>
      -- The innermost open parenthesis is the one that is reported.
      cases hp : f.parens with
      | nil =>
        simp only [finish, transfer, Mode.transfer, List.map_cons, Frame.transfer, hp,
          List.map_nil, List.head?_nil, Option.getD_none, moveOutcome, CompileError.shift]
      | cons p ps =>
        simp only [finish, transfer, Mode.transfer, List.map_cons, Frame.transfer, hp,
          List.head?_cons, Option.getD_some, moveOutcome, CompileError.shift]

/-! ## Whole texts -/

/-- What reading a text from here on gives. -/
def complete (registry : Registry) (config : EngineConfig) (r : Reader) (ls : List Lexeme) :
    Except CompileError (List (Piece Routine)) :=
  match r.run registry config ls with
  | .error e => .error e
  | .ok r => r.finish

include hc in
/-- Reading a text to its end commutes with moving on and changing caches. -/
theorem complete_transfer (r : Reader) (ls : List Lexeme) :
    (r.transfer g n).complete registry config' (ls.map (Lexeme.shift n)) =
      moveOutcome n (transferPieces g n) (r.complete registry config ls) := by
  simp only [complete, run_transfer n hc]
  cases r.run registry config ls with
  | error e => rfl
  | ok r => exact finish_reader_transfer n r

end Reader

/-- Parsing is reading a text to its end. -/
theorem parse_eq_complete (registry : Registry) (config : EngineConfig) (text : String) :
    parse registry config text =
      (Reader.complete registry config {} (Token.scan text)).map
        (⟨text, ·, Cache.fresh config.staticCaching⟩) := by
  simp only [parse, Reader.complete]
  cases Reader.run registry config {} (Token.scan text) with
  | error e => rfl
  | ok r =>
    simp only
    cases r.finish <;> rfl

end Transfer

end TextTemplate
