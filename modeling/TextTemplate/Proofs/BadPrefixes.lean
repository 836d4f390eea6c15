import TextTemplate.Engine
import TextTemplate.Proofs.SymbolReading

/-!
# Bad prefixes

Where a text cannot be read on, nothing that follows makes a difference.

* `Grammar.Extends` relates the symbols of a text to those of a longer one. A `$` or a backslash at
  the end may become part of a longer symbol there.
* `Grammar.read_error_of_extends`: an error found while symbols are read is found in longer texts.
* `Engine.compile_error_decided`: the shortest bad prefix of a text decides its error, unless the
  error is that the text ends too early.
-/

namespace TextTemplate

/-- Whether the error is that a text ends too early. -/
def CompileError.isOpenEnded : CompileError → Bool
  | unterminatedReference _ => true
  | unbalancedParentheses _ => true
  | unexpectedCharacter _ _ _ => false
  | emptyReference _ => false
  | unknownFunction _ _ => false
  | invalidArity _ _ _ _ _ => false
  | nestingTooDeep _ _ => false

/-! ## When errors are found -/

namespace Reader

variable {registry : Registry} {config : EngineConfig} {r : Reader} {l : Lexeme}
  {next next' : Option Token} {e : CompileError}

theorem isOpenEnded_of_arityError? {routine : Routine} {count position : Nat}
    (h : arityError? routine count position = some e) : e.isOpenEnded = false := by
  simp only [arityError?] at h
  split at h
  · cases h
  · cases h
    rfl

theorem isOpenEnded_of_openReference {position : Nat}
    (h : r.openReference config position = .error e) : e.isOpenEnded = false := by
  unfold openReference at h
  split at h
  · cases h
  · cases h
    rfl

theorem isOpenEnded_of_finishName {position : Nat} {name : String}
    (h : r.finishName registry position name = .error e) : e.isOpenEnded = false := by
  unfold finishName at h
  split at h
  · cases h
  · split at h
    · cases h
      exact isOpenEnded_of_arityError? ‹_›
    · cases h

theorem isOpenEnded_of_openCall {position paren : Nat} {name : String}
    (h : r.openCall registry position name paren = .error e) : e.isOpenEnded = false := by
  unfold openCall at h
  split at h
  · cases h
    rfl
  · cases h

theorem isOpenEnded_of_finishArguments {f : Frame} {fs : List Frame}
    (h : r.finishArguments config f fs = .error e) : e.isOpenEnded = false := by
  simp only [finishArguments] at h
  split at h
  · cases h
    exact isOpenEnded_of_arityError? ‹_›
  · cases h

theorem isOpenEnded_of_stepNaming {position : Nat} {name : String}
    (h : r.stepNaming registry position name l = .error e) : e.isOpenEnded = false := by
  unfold stepNaming at h
  split at h
  · split at h
    · cases h
      rfl
    · cases h
  · split at h
    · cases h
      rfl
    · exact isOpenEnded_of_openCall h
  · split at h
    · cases h
      rfl
    · exact isOpenEnded_of_finishName h
  · cases h
    rfl

theorem isOpenEnded_of_stepClosing {source : String} {piece : Piece Routine}
    (h : r.stepClosing source piece l = .error e) : e.isOpenEnded = false := by
  unfold stepClosing at h
  split at h
  · cases h
  · cases h
    rfl

theorem isOpenEnded_of_stepArgument {f : Frame} {fs : List Frame}
    (h : r.stepArgument config f fs l = .error e) : e.isOpenEnded = false := by
  rcases l with ⟨start, token⟩
  -- Only the parenthesis after the last argument and a reference in an argument can fail.
  cases token with
  | comma =>
    cases hp : f.parens with
    | nil =>
      simp only [stepArgument, hp] at h
      cases h
    | cons p ps =>
      simp only [stepArgument, hp] at h
      cases h
  | rightParen =>
    cases hp : f.parens with
    | nil =>
      simp only [stepArgument, hp] at h
      exact isOpenEnded_of_finishArguments h
    | cons p ps =>
      simp only [stepArgument, hp] at h
      cases h
  | openReference => exact isOpenEnded_of_openReference h
  | text | escaped | leftParen | rightBrace => cases h

theorem isOpenEnded_of_stepOuter (h : r.stepOuter config l next = .error e) :
    e.isOpenEnded = false := by
  unfold stepOuter at h
  split at h
  · exact isOpenEnded_of_openReference h
  · split at h
    · cases h
    · cases h
  · cases h

/-- While there are tokens, no error says that the text ends too early. -/
theorem isOpenEnded_of_step (h : r.step registry config l next = .error e) :
    e.isOpenEnded = false := by
  unfold step at h
  split at h
  · exact isOpenEnded_of_stepNaming h
  · exact isOpenEnded_of_stepClosing h
  · split at h
    · exact isOpenEnded_of_stepOuter h
    · exact isOpenEnded_of_stepArgument h

theorem isOpenEnded_of_run {ls : List Lexeme} (h : r.run registry config ls = .error e) :
    e.isOpenEnded = false := by
  induction ls generalizing r with
  | nil => cases h
  | cons l ls ih =>
    rw [Grammar.run_cons] at h
    cases hstep : r.step registry config l (ls.head?.map Lexeme.token) with
    | error e' =>
      rw [hstep] at h
      cases h
      exact isOpenEnded_of_step hstep
    | ok r' =>
      rw [hstep] at h
      exact ih h

/-- At the end of a text, there are no other errors. -/
theorem isOpenEnded_of_finish (h : r.finish = .error e) : e.isOpenEnded = true := by
  unfold finish at h
  split at h
  · cases h
    rfl
  · cases h
    rfl
  · split at h
    · cases h
    · cases h
      rfl

/-- Whether a token has a place does not depend on the one after it. -/
theorem step_error_congr (h : r.step registry config l next = .error e) :
    r.step registry config l next' = .error e := by
  rcases r with ⟨outer, frames, mode⟩
  cases mode with
  | naming position name => exact h
  | closing position source piece => exact h
  | content =>
    cases frames with
    | cons f fs => exact h
    | nil =>
      -- Only a quoted `$` makes a difference here, and it always has a place.
      rcases l with ⟨n, t⟩
      simp only [step] at h ⊢
      unfold stepOuter at h ⊢
      split at h
      · exact h
      · split at h
        · cases h
        · cases h
      · cases h

/-- A text fails while it is read, or at its end. -/
theorem parse_eq_error {text : String} (h : parse registry config text = .error e) :
    run registry config {} (Token.scan text) = .error e ∨
      ∃ r, run registry config {} (Token.scan text) = .ok r ∧ r.finish = .error e := by
  unfold parse at h
  cases hrun : run registry config {} (Token.scan text) with
  | error e' =>
    simp only [hrun, Except.error.injEq] at h
    exact Or.inl (congrArg Except.error h)
  | ok r =>
    cases hfinish : r.finish with
    | ok pieces => simp [hrun, hfinish] at h
    | error e' =>
      simp only [hrun, hfinish, Except.error.injEq] at h
      exact Or.inr ⟨r, rfl, by rw [hfinish, h]⟩

end Reader

namespace Grammar

/-! ## Symbols of a longer text -/

/-- The symbols `vs` go on where `us` end. At the end of `us`, a `$` or a backslash may have become
the start of a longer symbol. -/
inductive Extends : List Symbol → List Symbol → Prop where
  | nil {vs} : Extends [] vs
  | cons {us vs} (u : Symbol) (rest : Extends us vs) : Extends (u :: us) (u :: vs)
  | dollar {vs} : Extends [.single '$'] (.opening :: vs)
  | backslash {c vs} : Extends [.single '\\'] (.pair c :: vs)

/-- The symbols of a longer text go on where those of the text end. -/
theorem Splits.exists_extends {cs : List Char} {us : List Symbol} (h : Splits cs us)
    (ds : List Char) : ∃ vs, Splits (cs ++ ds) vs ∧ Extends us vs := by
  induction h with
  | nil =>
    rcases exists_splits ds with ⟨vs, hs⟩
    exact ⟨vs, hs, .nil⟩
  | pair quotable _ ih =>
    rcases ih with ⟨vs, hs, hx⟩
    exact ⟨_, .pair quotable hs, .cons _ hx⟩
  | opening _ ih =>
    rcases ih with ⟨vs, hs, hx⟩
    exact ⟨_, .opening hs, .cons _ hx⟩
  | @single c cs us unpaired unopened rest ih =>
    rcases ih with ⟨vs, hs, hx⟩
    cases cs with
    | cons d cs =>
      -- The character after `c` is the same in the longer text.
      exact ⟨_, .single unpaired unopened hs, .cons _ hx⟩
    | nil =>
      cases rest
      by_cases hpair : c = '\\' ∧ ∃ d ∈ ds.head?, Token.isQuotable d = true
      · rcases hpair with ⟨rfl, d, hd, hq⟩
        rcases List.head?_eq_some_iff.mp hd with ⟨ds, rfl⟩
        rcases exists_splits ds with ⟨ws, hws⟩
        exact ⟨_, .pair hq hws, .backslash⟩
      by_cases hopen : c = '$' ∧ ds.head? = some '{'
      · rcases hopen with ⟨rfl, hd⟩
        rcases List.head?_eq_some_iff.mp hd with ⟨ds, rfl⟩
        rcases exists_splits ds with ⟨ws, hws⟩
        exact ⟨_, .opening hws, .dollar⟩
      · refine ⟨_, .single ?_ ?_ hs, .cons _ hx⟩
        · intro hc d hd
          have hq : ¬ Token.isQuotable d = true := fun hq => hpair ⟨hc, d, hd, hq⟩
          exact Bool.eq_false_iff.mpr hq
        · intro hc hd
          exact hopen ⟨hc, hd⟩

/-- Unless there is no symbol at all, the longer text starts with the same character. -/
theorem Extends.firstChar {u : Symbol} {us vs : List Symbol} (h : Extends (u :: us) vs) :
    (vs.head?.map Symbol.token).map Token.firstChar = some u.token.firstChar := by
  cases h with
  | cons => rfl
  | dollar => rfl
  | backslash => rfl

/-! ## Reading a longer text -/

variable {registry : Registry} {config : EngineConfig}

/-- A character that has no place, neither in a name nor after arguments, has none as the start of
a longer symbol. -/
theorem step_error_of_longer {r : Reader} {n : Nat} {c : Char} {t : Token}
    {next next' : Option Token} {e : CompileError}
    (ht : t = .openReference ∧ c = '$' ∨ ∃ d, t = .escaped d ∧ c = '\\')
    (h : r.step registry config ⟨n, .text [c]⟩ next = .error e) :
    r.step registry config ⟨n, t⟩ next' = .error e := by
  rcases r with ⟨outer, frames, mode⟩
  cases mode with
  | naming position name =>
    rcases ht with ⟨rfl, rfl⟩ | ⟨d, rfl, rfl⟩
    · exact h
    · exact h
  | closing position source piece =>
    rcases ht with ⟨rfl, rfl⟩ | ⟨d, rfl, rfl⟩
    · exact h
    · exact h
  | content =>
    -- Everywhere else, plain text has a place.
    cases frames with
    | nil => cases h
    | cons f fs => cases h

theorem read_single_error {r : Reader} {n : Nat} {u : Symbol} {e : CompileError}
    (h : read registry config r n [u] = .error e) :
    r.step registry config ⟨n, u.token⟩ none = .error e := by
  rw [read_cons] at h
  cases hstep : r.step registry config ⟨n, u.token⟩ none with
  | error e' => simpa [hstep] using h
  | ok r' =>
    simp only [List.head?_nil, Option.map_none, hstep] at h
    cases h

theorem read_cons_of_step_error {r : Reader} {n : Nat} {u : Symbol} {us : List Symbol}
    {e : CompileError}
    (h : ∀ next, r.step registry config ⟨n, u.token⟩ next = .error e) :
    read registry config r n (u :: us) = .error e := by
  rw [read_cons, h]

/-- An error that is found while symbols are read is found in all longer texts. -/
theorem read_error_of_extends {us vs : List Symbol} (hx : Extends us vs) {r : Reader} {n : Nat}
    {e : CompileError} (h : read registry config r n us = .error e) :
    read registry config r n vs = .error e := by
  induction hx generalizing r n with
  | nil => cases h
  | @cons us vs u rest ih =>
    rw [read_cons] at h
    cases hstep : r.step registry config ⟨n, u.token⟩ (us.head?.map Symbol.token) with
    | error e' =>
      simp only [hstep, Except.error.injEq] at h
      subst h
      exact read_cons_of_step_error fun next => Reader.step_error_congr hstep
    | ok r' =>
      simp only [hstep] at h
      -- There are symbols after this one, so that the next token starts with the same character.
      cases us with
      | nil => cases h
      | cons v us =>
        have hnext : ((v :: us).head?.map Symbol.token).map Token.firstChar =
            (vs.head?.map Symbol.token).map Token.firstChar := rest.firstChar.symm
        rw [read_cons, ← step_congr_next r _ hnext, hstep]
        exact ih h
  | dollar =>
    have hstep := read_single_error h
    exact read_cons_of_step_error fun next => step_error_of_longer (.inl ⟨rfl, rfl⟩) hstep
  | @backslash c vs =>
    have hstep := read_single_error h
    exact read_cons_of_step_error fun next => step_error_of_longer (.inr ⟨c, rfl, rfl⟩) hstep

/-- An error that is found while a text is read is found in all longer texts. -/
theorem run_error_append {text : String} {e : CompileError}
    (h : Reader.run registry config {} (Token.scan text) = .error e) (rest : String) :
    Reader.run registry config {} (Token.scan (text ++ rest)) = .error e := by
  rcases exists_splits text.toList with ⟨us, hs⟩
  rcases hs.exists_extends rest.toList with ⟨vs, hs', hx⟩
  rw [← String.toList_append] at hs'
  have hread : read registry config {} 0 us = .error e := by
    rw [← run_ofChars hs]
    exact h
  have hread' := read_error_of_extends hx hread
  rw [← run_ofChars hs'] at hread'
  exact hread'

end Grammar

/-! ## Compilation -/

theorem Engine.compile_eq_error_iff {engine : Engine} {text : String} {m : Machine}
    {e : CompileError} :
    (engine.compile text m).1 = .error e ↔
      parse engine.registry engine.config text = .error e := by
  cases hp : parse engine.registry engine.config text with
  | error error => simp [Engine.compile, hp]
  | ok tree => simp [Engine.compile, hp]

/-- A text that fails to compile fails in the same way with any text after it, unless the error is
that it ends too early. Such an error comes up when all tokens of the text have been read. -/
theorem Engine.compile_error_decided {engine : Engine} {text : String} {m : Machine}
    {e : CompileError} (h : (engine.compile text m).1 = .error e) :
    (e.isOpenEnded = false →
      ∀ (rest : String) (m' : Machine), (engine.compile (text ++ rest) m').1 = .error e) ∧
    (e.isOpenEnded = true →
      ∃ r, Reader.run engine.registry engine.config {} (Token.scan text) = .ok r ∧
        r.finish = .error e) := by
  rcases Reader.parse_eq_error (Engine.compile_eq_error_iff.mp h) with hrun | ⟨r, hrun, hfinish⟩
  · -- The error was found while the text was read.
    have hlate : e.isOpenEnded = false := Reader.isOpenEnded_of_run hrun
    refine ⟨fun _ rest m' => ?_, fun he => ?_⟩
    · have hrun' := Grammar.run_error_append hrun rest
      apply Engine.compile_eq_error_iff.mpr
      simp only [parse, hrun']
    · rw [hlate] at he
      cases he
  · -- The error was found at the end of the text.
    have hlate : e.isOpenEnded = true := Reader.isOpenEnded_of_finish hfinish
    refine ⟨fun he => ?_, fun _ => ⟨r, hrun, hfinish⟩⟩
    rw [hlate] at he
    cases he

/-- A `$` that cannot be part of a name, with a text after it that makes an opening of it. -/
theorem Engine.compile_error_decided_dollar :
    (Engine.compile { registry := .empty } ("$\x7ba$" ++ "\x7bb\x7d") { entropy := ⟨0⟩ }).1 =
      .error (.unexpectedCharacter '$' .identifier 3) := by
  have h : (Engine.compile { registry := .empty } "$\x7ba$" { entropy := ⟨0⟩ }).1 =
      .error (.unexpectedCharacter '$' .identifier 3) := rfl
  exact (Engine.compile_error_decided h).1 rfl "\x7bb\x7d" { entropy := ⟨0⟩ }

end TextTemplate
