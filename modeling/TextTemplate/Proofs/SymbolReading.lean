import TextTemplate.Proofs.Grammar

/-!
# Reading symbols

A reader reads tokens, and a run of plain characters is one token. Here the reader is given every
symbol as a token of its own.

* `run_ofChars`: this makes no difference to a reader.
-/

namespace TextTemplate.Grammar

/-! ## Symbols as tokens -/

/-- The token that a symbol is by itself. -/
def Symbol.token : Symbol → Token
  | pair c => .escaped c
  | opening => .openReference
  | single c => (Token.mark? c).getD (.text [c])

theorem Symbol.source_token (u : Symbol) : u.token.source = u.written := by
  cases u with
  | pair c => rfl
  | opening => rfl
  | single c =>
    cases h : Token.mark? c with
    | none => simp [token, h, Token.source, written]
    | some t => simp [token, h, Token.source_of_mark? h, written]

theorem Symbol.width_token (u : Symbol) : u.token.width = utf8Width u.written := by
  rw [Token.width, source_token]

theorem width_append (us vs : List Symbol) : width (us ++ vs) = width us + width vs := by
  simp [width, spelling, utf8Width_append]

@[simp]
theorem width_nil : width [] = 0 := rfl

@[simp]
theorem width_pair (c : Char) (us : List Symbol) :
    width (.pair c :: us) = 1 + c.utf8Size + width us := by
  simp [width, spelling, Symbol.written, utf8Width, Nat.add_assoc,
    show '\\'.utf8Size = 1 from rfl]

@[simp]
theorem width_opening (us : List Symbol) : width (.opening :: us) = 2 + width us := by
  rw [← List.singleton_append, width_append]
  rfl

@[simp]
theorem width_single (c : Char) (us : List Symbol) :
    width (.single c :: us) = c.utf8Size + width us := by
  simp [width, spelling, Symbol.written, utf8Width]

@[simp]
theorem utf8Size_leftParen : '('.utf8Size = 1 := rfl

@[simp]
theorem utf8Size_rightParen : ')'.utf8Size = 1 := rfl

@[simp]
theorem utf8Size_comma : ','.utf8Size = 1 := rfl

@[simp]
theorem utf8Size_rightBrace : '}'.utf8Size = 1 := rfl

theorem spelling_nil : spelling [] = [] := rfl

theorem spelling_cons (u : Symbol) (us : List Symbol) :
    spelling (u :: us) = u.written ++ spelling us := rfl

theorem spelling_append (us vs : List Symbol) :
    spelling (us ++ vs) = spelling us ++ spelling vs := by
  simp [spelling]

theorem spelling_map_single (cs : List Char) : spelling (cs.map .single) = cs := by
  induction cs with
  | nil => rfl
  | cons c cs ih => simpa [spelling, Symbol.written] using ih

@[simp]
theorem width_map_single (cs : List Char) : width (cs.map .single) = utf8Width cs := by
  rw [width, spelling_map_single]

/-- Nothing of a text is lost in its symbols. -/
theorem Splits.spelling_eq {cs : List Char} {us : List Symbol} (h : Splits cs us) :
    spelling us = cs := by
  induction h with
  | nil => rfl
  | pair _ _ ih => rw [spelling_cons, ih, Symbol.written, List.cons_append, List.singleton_append]
  | opening _ ih => rw [spelling_cons, ih, Symbol.written, List.cons_append, List.singleton_append]
  | single _ _ _ ih => rw [spelling_cons, ih, Symbol.written, List.singleton_append]

/-- How a bare name is written. -/
theorem spelling_bare (name : List Char) :
    String.ofList (spelling (.opening :: name.map .single ++ [.single '}'])) =
      "$\x7b" ++ String.ofList name ++ "\x7d" := by
  have hchars : spelling (.opening :: name.map .single ++ [.single '}']) =
      ['$', '{'] ++ name ++ ['}'] := by
    simp only [List.cons_append, spelling_append, spelling_cons, spelling_map_single,
      spelling_nil, Symbol.written, List.nil_append]
  rw [hchars, String.ofList_append, String.ofList_append]

/-- How a call with parentheses is written. -/
theorem spelling_call (name : List Char) (us : List Symbol) :
    String.ofList (spelling
        (.opening :: name.map .single ++ .single '(' :: us ++ [.single ')', .single '}'])) =
      "$\x7b" ++ String.ofList name ++ "(" ++ String.ofList (spelling us) ++ ")\x7d" := by
  have hchars : spelling
      (.opening :: name.map .single ++ .single '(' :: us ++ [.single ')', .single '}']) =
        ['$', '{'] ++ name ++ ['('] ++ spelling us ++ [')', '}'] := by
    simp only [List.cons_append, spelling_append, spelling_cons, spelling_map_single,
      spelling_nil, Symbol.written, List.append_assoc, List.nil_append]
  rw [hchars]
  simp only [String.ofList_append]

/-! ## Tokens of a text -/

theorem firstChar_consPlain (c : Char) (ts : List Token) :
    (Token.consPlain c ts).head?.map Token.firstChar = some c := by
  unfold Token.consPlain
  split <;> rfl

theorem firstChar_of_mark? {c : Char} {t : Token} (h : Token.mark? c = some t) :
    t.firstChar = c := by
  simp [Token.firstChar, Token.source_of_mark? h]

/-- The first token of a text starts with the first character. -/
theorem firstChar_ofChars (cs : List Char) :
    (Token.ofChars cs).head?.map Token.firstChar = cs.head? := by
  fun_induction Token.ofChars cs with
  | case1 => rfl
  | case2 cs ih => rfl
  | case3 c cs h ih => rfl
  | case4 c cs h ih => exact firstChar_consPlain _ _
  | case5 c cs h₁ h₂ t ht ih => simp [firstChar_of_mark? ht]
  | case6 c cs h₁ h₂ h ih => exact firstChar_consPlain _ _

theorem Splits.firstChar {cs : List Char} {us : List Symbol} (h : Splits cs us) :
    (us.head?.map Symbol.token).map Token.firstChar = cs.head? := by
  cases h with
  | nil => rfl
  | pair => rfl
  | opening => rfl
  | @single c cs us _ _ _ =>
    cases hm : Token.mark? c with
    | none => simp [Symbol.token, hm, Token.firstChar, Token.source]
    | some t => simp [Symbol.token, hm, firstChar_of_mark? hm]

/-- A character outside of pairs and openings is a mark, or joins the run after it. -/
theorem ofChars_single {c : Char} {cs : List Char}
    (unpaired : c = '\\' → ∀ d ∈ cs.head?, Token.isQuotable d = false)
    (unopened : c = '$' → cs.head? ≠ some '{') :
    Token.ofChars (c :: cs) =
      match Token.mark? c with
      | some t => t :: Token.ofChars cs
      | none => Token.consPlain c (Token.ofChars cs) := by
  by_cases hb : c = '\\'
  · subst hb
    cases cs with
    | nil => rfl
    | cons d ds =>
      have hd := unpaired rfl d rfl
      simp [Token.ofChars, hd, Token.mark?]
  · refine Token.ofChars.eq_4 c cs ?_ ?_
    · rintro ds rfl rfl
      exact unopened rfl rfl
    · intro d ds hc _
      exact hb hc

/-- Every text has symbols. -/
theorem exists_splits (cs : List Char) : ∃ us, Splits cs us := by
  fun_induction Token.ofChars cs with
  | case1 => exact ⟨[], .nil⟩
  | case2 cs ih =>
    rcases ih with ⟨us, h⟩
    exact ⟨_, .opening h⟩
  | case3 c cs hc ih =>
    rcases ih with ⟨us, h⟩
    exact ⟨_, .pair hc h⟩
  | case4 c cs hc ih =>
    rcases ih with ⟨us, h⟩
    refine ⟨_, .single ?_ (by simp) h⟩
    rintro - d hd
    simp only [List.head?_cons, Option.mem_some_iff] at hd
    simpa [hd] using hc
  | case5 c cs h₁ h₂ t ht ih =>
    rcases ih with ⟨us, h⟩
    refine ⟨_, .single ?_ ?_ h⟩
    · rintro rfl
      cases ht
    · rintro rfl
      cases ht
  | case6 c cs h₁ h₂ hm ih =>
    rcases ih with ⟨us, h⟩
    refine ⟨_, .single ?_ ?_ h⟩
    · rintro rfl d hd
      rcases List.head?_eq_some_iff.mp hd with ⟨ds, rfl⟩
      exact absurd rfl (h₂ d ds rfl)
    · rintro rfl hd
      rcases List.head?_eq_some_iff.mp hd with ⟨ds, rfl⟩
      exact h₁ ds rfl rfl

/-! ## Reading -/

variable {registry : Registry} {config : EngineConfig}

/-- A reader looks at the first character of the next token only. -/
theorem step_congr_next (r : Reader) (l : Lexeme) {next next' : Option Token}
    (h : next.map Token.firstChar = next'.map Token.firstChar) :
    r.step registry config l next = r.step registry config l next' := by
  unfold Reader.step
  split
  · rfl
  · rfl
  · split
    · unfold Reader.stepOuter
      rw [h]
    · rfl

theorem run_cons (r : Reader) (l : Lexeme) (ls : List Lexeme) :
    r.run registry config (l :: ls) =
      match r.step registry config l (ls.head?.map Lexeme.token) with
      | .error e => .error e
      | .ok next => next.run registry config ls := rfl

theorem head?_place (n : Nat) (ts : List Token) :
    (Lexeme.place n ts).head?.map Lexeme.token = ts.head? := by
  cases ts <;> rfl

theorem append_ofList_cons (s : String) (c : Char) (cs : List Char) :
    s ++ String.ofList (c :: cs) = s ++ String.ofList [c] ++ String.ofList cs := by
  rw [String.append_assoc, ← String.ofList_append, List.singleton_append]

theorem write_cons (d : Draft) (c : Char) (cs : List Char) :
    d.write (c :: cs) = (d.write [c]).write cs := by
  simp only [Draft.write]
  rw [append_ofList_cons]

/-- A run can be read in two parts. -/
theorem run_text_cons (r : Reader) (n : Nat) (c : Char) (cs : List Char) (ls : List Lexeme) :
    r.run registry config (⟨n, .text (c :: cs)⟩ :: ls) =
      r.run registry config (⟨n, .text [c]⟩ :: ⟨n + c.utf8Size, .text cs⟩ :: ls) := by
  rcases r with ⟨outer, frames, mode⟩
  cases mode with
  | content =>
    cases frames with
    | nil => simp only [run_cons, Reader.step, Reader.stepOuter, Token.source, write_cons _ c cs]
    | cons f fs =>
      simp only [run_cons, Reader.step, Reader.stepArgument, Frame.write, Token.source,
        write_cons _ c cs, append_ofList_cons _ c cs]
  | naming position name =>
    simp only [run_cons, Reader.step, Reader.stepNaming, findForbidden?]
    cases hc : isForbiddenInName c with
    | true => simp only [if_true]
    | false =>
      cases hf : findForbidden? cs with
      | none =>
        simp only [Bool.false_eq_true, if_false, Option.map_none, append_ofList_cons _ c cs]
      | some found =>
        have hn : n + (found.2 + c.utf8Size) = n + c.utf8Size + found.2 := by omega
        simp only [Bool.false_eq_true, if_false, Option.map_some, Option.map_none, hn]
  | closing position source piece =>
    simp only [run_cons, Reader.step, Reader.stepClosing, Token.firstChar, Token.source,
      List.headD_cons]

/-- A plain character can be read before the rest of the run that it is in. -/
theorem run_consPlain (r : Reader) (n : Nat) (c : Char) (ts : List Token) :
    r.run registry config (Lexeme.place n (Token.consPlain c ts)) =
      r.run registry config (Lexeme.place n (.text [c] :: ts)) := by
  unfold Token.consPlain
  split
  · rename_i run ts
    have hw : n + Token.width (.text (c :: run)) = n + c.utf8Size + Token.width (.text run) := by
      simp [Token.width, Token.source, utf8Width, Nat.add_assoc]
    simp only [Lexeme.place, hw]
    rw [run_text_cons]
    simp [Token.width, Token.source, utf8Width]
  · rfl

/-- Reads symbols as tokens of their own, the first at offset `n`. -/
def read (registry : Registry) (config : EngineConfig) (r : Reader) (n : Nat) (us : List Symbol) :
    Except CompileError Reader :=
  r.run registry config (Lexeme.place n (us.map Symbol.token))

theorem read_cons (r : Reader) (n : Nat) (u : Symbol) (us : List Symbol) :
    read registry config r n (u :: us) =
      match r.step registry config ⟨n, u.token⟩ (us.head?.map Symbol.token) with
      | .error e => .error e
      | .ok next => read registry config next (n + utf8Width u.written) us := by
  simp only [read, List.map_cons, Lexeme.place, run_cons, head?_place, List.head?_map,
    Symbol.width_token]

/-- A reader that reads a text reads its symbols. -/
theorem run_ofChars {cs : List Char} {us : List Symbol} (h : Splits cs us) (r : Reader) (n : Nat) :
    r.run registry config (Lexeme.place n (Token.ofChars cs)) = read registry config r n us := by
  -- A token that is a symbol too is read alike: the tokens after it start with the same character.
  have hread : ∀ {cs us} (u : Symbol), Splits cs us →
      (∀ r n, Reader.run registry config r (Lexeme.place n (Token.ofChars cs)) =
        read registry config r n us) → ∀ r n,
      Reader.run registry config r (Lexeme.place n (u.token :: Token.ofChars cs)) =
        read registry config r n (u :: us) := by
    intro cs us u hs ih r n
    rw [Lexeme.place, run_cons, read_cons, head?_place, Symbol.width_token]
    rw [step_congr_next r _ ((firstChar_ofChars cs).trans hs.firstChar.symm)]
    cases r.step registry config ⟨n, u.token⟩ (us.head?.map Symbol.token) with
    | error e => rfl
    | ok next => exact ih next _
  induction h generalizing r n with
  | nil => rfl
  | pair hc hs ih =>
    rw [Token.ofChars, if_pos hc]
    exact hread (.pair _) hs ih r n
  | opening hs ih => exact hread .opening hs ih r n
  | @single c cs us unpaired unopened hs ih =>
    rw [ofChars_single unpaired unopened, ← hread (.single c) hs ih r n]
    cases hm : Token.mark? c with
    | some t => simp [Symbol.token, hm]
    | none => simpa [Symbol.token, hm] using run_consPlain r n c (Token.ofChars cs)

/-! ## Single steps

Each reader is given by its parts: what stands outside of references, the open calls, and what the
next token continues. -/

variable (outer : Draft) (f : Frame) (fs : List Frame) (n : Nat) (us : List Symbol)

theorem read_opening (frames : List Frame) :
    read registry config ⟨outer, frames, .content⟩ n (.opening :: us) =
      if frames.length < config.maxNestingDepth then
        read registry config ⟨outer, frames, .naming n ""⟩ (n + 2) us
      else .error (.nestingTooDeep config.maxNestingDepth n) := by
  have hw : utf8Width Symbol.opening.written = 2 := rfl
  have hstep : ∀ next, Reader.step registry config ⟨outer, frames, .content⟩ ⟨n, .openReference⟩
      next = Reader.openReference config ⟨outer, frames, .content⟩ n := by
    intro next
    cases frames <;> rfl
  rw [read_cons, hw, Symbol.token, hstep, Reader.openReference]
  by_cases h : frames.length < config.maxNestingDepth
  · simp only [if_pos h]
  · simp only [if_neg h]

theorem read_argument_pair (c : Char) :
    read registry config ⟨outer, f :: fs, .content⟩ n (.pair c :: us) =
      read registry config ⟨outer, f.write ['\\', c] [c] :: fs, .content⟩ (n + 1 + c.utf8Size)
        us := by
  have hw : n + utf8Width (Symbol.pair c).written = n + 1 + c.utf8Size := by
    simp [Symbol.written, utf8Width, Nat.add_assoc, show '\\'.utf8Size = 1 from rfl]
  rw [read_cons, hw]
  rfl

theorem read_argument_leftParen :
    read registry config ⟨outer, f :: fs, .content⟩ n (.single '(' :: us) =
      read registry config ⟨outer, { f with parens := n :: f.parens }.write ['('] ['('] :: fs,
        .content⟩ (n + 1) us := by
  rw [read_cons]
  rfl

theorem read_argument_rightParen {p : Nat} {ps : List Nat} (h : f.parens = p :: ps) :
    read registry config ⟨outer, f :: fs, .content⟩ n (.single ')' :: us) =
      read registry config ⟨outer, { f with parens := ps }.write [')'] [')'] :: fs, .content⟩
        (n + 1) us := by
  have hw : utf8Width (Symbol.single ')').written = 1 := rfl
  rw [read_cons, hw]
  simp only [Symbol.token, Token.mark?, Option.getD_some, Reader.step, Reader.stepArgument, h,
    Token.source]

theorem read_argument_comma {p : Nat} {ps : List Nat} (h : f.parens = p :: ps) :
    read registry config ⟨outer, f :: fs, .content⟩ n (.single ',' :: us) =
      read registry config ⟨outer, f.write [','] [','] :: fs, .content⟩ (n + 1) us := by
  have hw : utf8Width (Symbol.single ',').written = 1 := rfl
  rw [read_cons, hw]
  simp only [Symbol.token, Token.mark?, Option.getD_some, Reader.step, Reader.stepArgument, h,
    Token.source]

theorem read_argument_single {c : Char} (h : c ∉ ['(', ')', ',']) :
    read registry config ⟨outer, f :: fs, .content⟩ n (.single c :: us) =
      read registry config ⟨outer, f.write [c] [c] :: fs, .content⟩ (n + c.utf8Size) us := by
  have hw : utf8Width (Symbol.single c).written = c.utf8Size := by simp [Symbol.written, utf8Width]
  rw [read_cons, hw]
  by_cases hb : c = '}'
  · subst hb
    rfl
  · have hm : Token.mark? c = none := by
      simp only [List.mem_cons, List.not_mem_nil, or_false, not_or] at h
      unfold Token.mark?
      split <;> simp_all
    simp only [Symbol.token, hm, Option.getD_none, Reader.step, Reader.stepArgument, Token.source]

/-- A comma outside of plain parentheses ends an argument. -/
theorem read_separator (h : f.parens = []) :
    read registry config ⟨outer, f :: fs, .content⟩ n (.single ',' :: us) =
      read registry config ⟨outer, f.nextArgument config :: fs, .content⟩ (n + 1) us := by
  have hw : utf8Width (Symbol.single ',').written = 1 := rfl
  rw [read_cons, hw]
  simp only [Symbol.token, Token.mark?, Option.getD_some, Reader.step, Reader.stepArgument, h]

/-- A parenthesis outside of plain parentheses ends the last argument. -/
theorem read_close (h : f.parens = []) :
    read registry config ⟨outer, f :: fs, .content⟩ n (.single ')' :: us) =
      match Reader.finishArguments config ⟨outer, f :: fs, .content⟩ f fs with
      | .error e => .error e
      | .ok next => read registry config next (n + 1) us := by
  have hw : utf8Width (Symbol.single ')').written = 1 := rfl
  rw [read_cons, hw]
  simp only [Symbol.token, Token.mark?, Option.getD_some, Reader.step, Reader.stepArgument, h]

/-! ## Outside of references -/

theorem read_template_single (c : Char) :
    read registry config ⟨outer, [], .content⟩ n (.single c :: us) =
      read registry config ⟨outer.write [c], [], .content⟩ (n + c.utf8Size) us := by
  have hw : utf8Width (Symbol.single c).written = c.utf8Size := by simp [Symbol.written, utf8Width]
  rw [read_cons, hw]
  cases hm : Token.mark? c with
  | none =>
    simp only [Symbol.token, hm, Option.getD_none, Reader.step, Reader.stepOuter, Token.source]
  | some t =>
    simp only [Symbol.token, hm, Option.getD_some]
    unfold Token.mark? at hm
    split at hm <;> cases hm <;> rfl

theorem read_template_escape :
    read registry config ⟨outer, [], .content⟩ n (.pair '$' :: .single '{' :: us) =
      read registry config ⟨outer.write ['$'], [], .content⟩ (n + 2) (.single '{' :: us) := by
  have hw : utf8Width (Symbol.pair '$').written = 2 := rfl
  rw [read_cons, hw]
  rfl

theorem firstChar_token_eq_leftBrace {u : Symbol} (h : u.token.firstChar = '{') :
    u = .single '{' := by
  rw [Token.firstChar, Symbol.source_token] at h
  cases u with
  | pair c => cases h
  | opening => cases h
  | single c => rw [show c = '{' from h]

theorem read_template_pair {c : Char} (kept : c = '$' → us.head? ≠ some (.single '{')) :
    read registry config ⟨outer, [], .content⟩ n (.pair c :: us) =
      read registry config ⟨outer.write ['\\', c], [], .content⟩ (n + 1 + c.utf8Size) us := by
  have hw : n + utf8Width (Symbol.pair c).written = n + 1 + c.utf8Size := by
    simp [Symbol.written, utf8Width, Nat.add_assoc, show '\\'.utf8Size = 1 from rfl]
  rw [read_cons, hw]
  by_cases hc : c = '$'
  · subst hc
    have hnext : (us.head?.map Symbol.token).map Token.firstChar ≠ some '{' := by
      cases us with
      | nil => simp
      | cons u us =>
        intro h
        have hu := firstChar_token_eq_leftBrace (Option.some.inj h)
        exact kept rfl (by rw [List.head?_cons, hu])
    simp only [Symbol.token, Reader.step, Reader.stepOuter, if_neg hnext, Token.source]
  · have hstep : Reader.stepOuter config ⟨outer, [], .content⟩ ⟨n, .escaped c⟩
        (us.head?.map Symbol.token) = .ok ⟨outer.write ['\\', c], [], .content⟩ := by
      unfold Reader.stepOuter
      split
      · simp_all
      · simp_all
      · rfl
    simp only [Symbol.token, Reader.step, hstep]

/-! ## Names -/

theorem mark?_of_not_reserved {c : Char} (h : c ∉ reserved) : Token.mark? c = none := by
  unfold Token.mark?
  split <;> simp_all [reserved]

theorem findForbidden?_of_not_reserved {c : Char} (h : c ∉ reserved) :
    findForbidden? [c] = none := by
  have hc : isForbiddenInName c = false := by
    simp only [reserved, List.mem_cons, List.not_mem_nil, or_false, not_or] at h
    simp [isForbiddenInName, h]
  simp [findForbidden?, hc]

variable (frames : List Frame) (position : Nat) (s : String)

/-- The characters of a name are read as they stand. -/
theorem read_name {name : List Char} (h : ∀ c ∈ name, c ∉ reserved) :
    read registry config ⟨outer, frames, .naming position s⟩ n (name.map .single ++ us) =
      read registry config ⟨outer, frames, .naming position (s ++ String.ofList name)⟩
        (n + utf8Width name) us := by
  induction name generalizing s n with
  | nil => simp [utf8Width]
  | cons c cs ih =>
    rcases List.forall_mem_cons.mp h with ⟨hc, hcs⟩
    have hw : utf8Width (Symbol.single c).written = c.utf8Size := by
      simp [Symbol.written, utf8Width]
    have hstep : read registry config ⟨outer, frames, .naming position s⟩ n
          (.single c :: (cs.map .single ++ us)) =
        read registry config ⟨outer, frames, .naming position (s ++ String.ofList [c])⟩
          (n + c.utf8Size) (cs.map .single ++ us) := by
      rw [read_cons, hw]
      simp only [Symbol.token, mark?_of_not_reserved hc, Option.getD_none, Reader.step,
        Reader.stepNaming, findForbidden?_of_not_reserved hc]
    rw [List.map_cons, List.cons_append, hstep, ih _ _ hcs, append_ofList_cons s c cs,
      utf8Width, Nat.add_assoc]

theorem read_name_rightBrace (hs : s ≠ "") :
    read registry config ⟨outer, frames, .naming position s⟩ n (.single '}' :: us) =
      match Reader.finishName registry ⟨outer, frames, .naming position s⟩ position s with
      | .error e => .error e
      | .ok next => read registry config next (n + 1) us := by
  have hw : utf8Width (Symbol.single '}').written = 1 := rfl
  rw [read_cons, hw]
  simp only [Symbol.token, Token.mark?, Option.getD_some, Reader.step, Reader.stepNaming, if_neg hs]

theorem read_name_leftParen (hs : s ≠ "") :
    read registry config ⟨outer, frames, .naming position s⟩ n (.single '(' :: us) =
      match Reader.openCall registry ⟨outer, frames, .naming position s⟩ position s n with
      | .error e => .error e
      | .ok next => read registry config next (n + 1) us := by
  have hw : utf8Width (Symbol.single '(').written = 1 := rfl
  rw [read_cons, hw]
  simp only [Symbol.token, Token.mark?, Option.getD_some, Reader.step, Reader.stepNaming, if_neg hs]

/-- The brace after the arguments of a call. -/
theorem read_closing (source : String) (piece : Piece Routine) :
    read registry config ⟨outer, frames, .closing position source piece⟩ n (.single '}' :: us) =
      read registry config
        (Reader.supply ⟨outer, frames, .content⟩ (source ++ "\x7d") piece) (n + 1) us := by
  have hw : utf8Width (Symbol.single '}').written = 1 := rfl
  rw [read_cons, hw]
  cases frames <;> rfl

end TextTemplate.Grammar
