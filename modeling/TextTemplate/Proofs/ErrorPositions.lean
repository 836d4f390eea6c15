import TextTemplate.Proofs.BadPrefixes
import TextTemplate.Proofs.LinesAndColumns
import TextTemplate.Proofs.SessionRuns

/-!
# Error positions

Every error points at what is wrong with the text.

* `CompileError.culprit` is what a text has at the position of an error.
* `Reader.InPlace` is the invariant of reading: what a reader remembers the offset of is written in
  the text read so far, at this offset. `step_located` and `read_located` preserve it, or end in
  an error that is `Located` in this text.
* `Engine.compile_error_points` says so of whole texts, with the line and the column. Where the
  culprit is a line feed, they tell the end of a line, and nothing stands there in the line itself
  (`Engine.compile_error_lineFeed_standsNowhere`).
-/

namespace TextTemplate

/-- What the text has at the position of an error. -/
def CompileError.culprit : CompileError → String
  | unterminatedReference _ => "$\x7b"
  | unbalancedParentheses _ => "("
  | unexpectedCharacter found _ _ => String.singleton found
  | emptyReference _ => "$\x7b"
  | unknownFunction name _ => "$\x7b" ++ name ++ "("
  | invalidArity _ _ _ _ _ => "$\x7b"
  | nestingTooDeep _ _ => "$\x7b"

theorem CompileError.culprit_ne_empty (e : CompileError) : e.culprit.toList ≠ [] := by
  cases e <;> simp [culprit]

/-- The marks of an open call are where it tells. -/
structure Frame.InPlace (text : String) (f : Frame) : Prop where
  opening : WrittenAt text f.position "$\x7b"
  paren : WrittenAt text f.paren "("
  parens : ∀ n ∈ f.parens, WrittenAt text n "("

/-- The reference that the next token continues is where it tells. Its name ends the text. -/
def Mode.InPlace (text : String) : Mode → Prop
  | .content => True
  | .naming position name =>
    ∃ before, text = before ++ ("$\x7b" ++ name) ∧ before.utf8ByteSize = position
  | .closing position _ _ => WrittenAt text position "$\x7b"

namespace Reader

/-- The marks that a reader remembers are in the text that it has read. -/
structure InPlace (text : String) (r : Reader) : Prop where
  frames : ∀ f ∈ r.frames, f.InPlace text
  mode : r.mode.InPlace text

/-- The outcome of reading a text: either the reader is in place, or an error points at its culprit
in this text. -/
def Located (text : String) : Except CompileError Reader → Prop
  | .ok r => r.InPlace text
  | .error e => WrittenAt text e.position e.culprit

end Reader

theorem Frame.InPlace.append {text : String} {f : Frame} (h : f.InPlace text) (after : String) :
    f.InPlace (text ++ after) where
  opening := h.opening.append after
  paren := h.paren.append after
  parens n hn := (h.parens n hn).append after

theorem Frame.InPlace.write {text : String} {f : Frame} (h : f.InPlace text)
    (written plain : List Char) : (f.write written plain).InPlace text :=
  ⟨h.opening, h.paren, h.parens⟩

theorem Frame.InPlace.add {text : String} {f : Frame} (h : f.InPlace text)
    (source : String) (piece : Piece Routine) : (f.add source piece).InPlace text :=
  ⟨h.opening, h.paren, h.parens⟩

theorem Frame.InPlace.nextArgument {text : String} {f : Frame} (h : f.InPlace text)
    (config : EngineConfig) : (f.nextArgument config).InPlace text := by
  refine ⟨h.opening, h.paren, ?_⟩
  intro n hn
  cases hn

namespace Reader

variable {registry : Registry} {config : EngineConfig} {r : Reader} {next : Option Token}
  {text done : String} {f : Frame} {fs : List Frame}

/-! ## Parts of a step -/

theorem InPlace.content {outer : Draft} (h : ∀ f ∈ fs, f.InPlace text) :
    InPlace text ⟨outer, fs, .content⟩ :=
  ⟨h, trivial⟩

theorem supply_inPlace (h : ∀ f ∈ r.frames, f.InPlace text) (source : String)
    (piece : Piece Routine) : (r.supply source piece).InPlace text := by
  unfold supply
  split
  · exact ⟨h, trivial⟩
  · rename_i f fs hfs
    rw [hfs] at h
    rcases List.forall_mem_cons.mp h with ⟨hf, hfs⟩
    exact ⟨List.forall_mem_cons.mpr ⟨hf.add source piece, hfs⟩, trivial⟩

theorem arityError?_located {routine : Routine} {count position : Nat} {e : CompileError}
    (h : arityError? routine count position = some e) (hp : WrittenAt text position "$\x7b") :
    WrittenAt text e.position e.culprit := by
  simp only [arityError?] at h
  split at h
  · cases h
  · cases h
    exact hp

theorem openReference_located (h : ∀ f ∈ r.frames, f.InPlace (done ++ "$\x7b")) :
    Located (done ++ "$\x7b") (r.openReference config done.utf8ByteSize) := by
  unfold openReference
  split
  · refine ⟨h, done, ?_, rfl⟩
    rw [String.append_empty]
  · exact .last done "$\x7b"

theorem finishName_located {position : Nat} {name : String} (h : ∀ f ∈ r.frames, f.InPlace text)
    (hp : WrittenAt text position "$\x7b") :
    Located text (r.finishName registry position name) := by
  unfold finishName
  split
  · exact supply_inPlace h _ _
  · split
    · exact arityError?_located ‹_› hp
    · exact supply_inPlace h _ _

theorem openCall_located {position paren : Nat} {name : String}
    (h : ∀ f ∈ r.frames, f.InPlace text) (hp : WrittenAt text position ("$\x7b" ++ name ++ "("))
    (hparen : WrittenAt text paren "(") :
    Located text (r.openCall registry position name paren) := by
  unfold openCall
  split
  · exact hp
  · have hopening : WrittenAt text position "$\x7b" :=
      hp.trans (((WrittenAt.self "$\x7b").append name).append "(")
    refine ⟨List.forall_mem_cons.mpr ⟨⟨hopening, hparen, ?_⟩, h⟩, trivial⟩
    intro n hn
    cases hn

theorem finishArguments_located (hf : f.InPlace text) (hfs : ∀ f ∈ fs, f.InPlace text) :
    Located text (r.finishArguments config f fs) := by
  simp only [finishArguments]
  split
  · exact arityError?_located ‹_› hf.opening
  · exact ⟨hfs, hf.opening⟩

theorem findForbidden?_writtenAt {cs : List Char} {c : Char} {n : Nat}
    (h : findForbidden? cs = some (c, n)) :
    WrittenAt (String.ofList cs) n (String.singleton c) := by
  induction cs generalizing n with
  | nil => cases h
  | cons d cs ih =>
    rw [String.ofList_cons]
    unfold findForbidden? at h
    split at h
    · cases h
      exact (WrittenAt.self _).append _
    · rcases Option.map_eq_some_iff.mp h with ⟨⟨c', k⟩, hk, heq⟩
      cases heq
      rw [Nat.add_comm, ← String.utf8ByteSize_singleton]
      exact (WrittenAt.last _ _).trans (ih hk)

/-! ## Steps -/

/-- A token is written where it starts, and begins with its first character. -/
theorem firstChar_writtenAt {t : Token} (h : t.source ≠ []) (done : String) :
    WrittenAt (done ++ String.ofList t.source) done.utf8ByteSize
      (String.singleton t.firstChar) := by
  rcases List.exists_cons_of_ne_nil h with ⟨c, cs, hsource⟩
  have hfirst : t.firstChar = c := by rw [Token.firstChar, hsource, List.headD_cons]
  rw [hfirst, hsource, String.ofList_cons]
  exact (WrittenAt.last done _).trans ((WrittenAt.self _).append _)

variable {t : Token}

theorem stepNaming_located {position : Nat} {name : String} (ht : t.source ≠ [])
    (h : ∀ f ∈ r.frames, f.InPlace (done ++ String.ofList t.source))
    (hmode : (Mode.naming position name).InPlace done) :
    Located (done ++ String.ofList t.source)
      (r.stepNaming registry position name ⟨done.utf8ByteSize, t⟩) := by
  rcases hmode with ⟨before, hdone, hbefore⟩
  have hopening : WrittenAt done position "$\x7b" :=
    ⟨before, name, by rw [hdone, String.append_assoc], hbefore⟩
  cases t with
  | text run =>
    simp only [stepNaming]
    split
    · rename_i found offset hfound
      exact (WrittenAt.last done _).trans (findForbidden?_writtenAt hfound)
    · refine ⟨h, before, ?_, hbefore⟩
      rw [hdone, Token.source]
      simp only [String.append_assoc]
  | leftParen =>
    simp only [stepNaming]
    split
    · exact hopening.append _
    · refine openCall_located h ⟨before, "", ?_, hbefore⟩ (.last done "(")
      rw [hdone, String.append_empty]
      simp only [String.append_assoc]
      rfl
  | rightBrace =>
    simp only [stepNaming]
    split
    · exact hopening.append _
    · exact finishName_located h (hopening.append _)
  | escaped | openReference | rightParen | comma => exact firstChar_writtenAt ht done

theorem stepClosing_located {source : String} {piece : Piece Routine}
    (ht : t.source ≠ []) (h : ∀ f ∈ r.frames, f.InPlace (done ++ String.ofList t.source)) :
    Located (done ++ String.ofList t.source)
      (r.stepClosing source piece ⟨done.utf8ByteSize, t⟩) := by
  unfold stepClosing
  split
  · exact supply_inPlace h _ _
  · exact firstChar_writtenAt ht done

theorem stepArgument_located {outer : Draft}
    (h : ∀ g ∈ f :: fs, g.InPlace (done ++ String.ofList t.source)) :
    Located (done ++ String.ofList t.source)
      (stepArgument config ⟨outer, f :: fs, .content⟩ f fs ⟨done.utf8ByteSize, t⟩) := by
  rcases List.forall_mem_cons.mp h with ⟨hf, hfs⟩
  -- Plain text changes nothing but which parentheses are open.
  have hplain : ∀ (parens : List Nat) (cs : List Char),
      (∀ n ∈ parens, WrittenAt (done ++ String.ofList t.source) n "(") →
      InPlace (done ++ String.ofList t.source)
        ⟨outer, Frame.write { f with parens } t.source cs :: fs, .content⟩ := by
    intro parens cs hparens
    have hframe : Frame.InPlace (done ++ String.ofList t.source) { f with parens } :=
      ⟨hf.opening, hf.paren, hparens⟩
    exact .content (List.forall_mem_cons.mpr ⟨hframe.write _ _, hfs⟩)
  cases t with
  | text | escaped | rightBrace => exact hplain f.parens _ hf.parens
  | openReference => exact openReference_located h
  | leftParen =>
    exact hplain _ _ (List.forall_mem_cons.mpr ⟨.last done "(", hf.parens⟩)
  | comma =>
    cases hp : f.parens with
    | nil =>
      simp only [stepArgument, hp]
      exact .content (List.forall_mem_cons.mpr ⟨hf.nextArgument config, hfs⟩)
    | cons p parens =>
      simp only [stepArgument, hp]
      exact hplain f.parens _ hf.parens
  | rightParen =>
    cases hp : f.parens with
    | nil =>
      simp only [stepArgument, hp]
      exact finishArguments_located hf hfs
    | cons p parens =>
      have hparens := hf.parens
      rw [hp] at hparens
      simp only [stepArgument, hp]
      exact hplain parens _ (List.forall_mem_cons.mp hparens).2

theorem InPlace.outside (text : String) (outer : Draft) : InPlace text ⟨outer, [], .content⟩ := by
  refine .content ?_
  intro f hf
  cases hf

theorem stepOuter_located {outer : Draft} :
    Located (done ++ String.ofList t.source)
      (stepOuter config ⟨outer, [], .content⟩ ⟨done.utf8ByteSize, t⟩ next) := by
  unfold stepOuter
  split
  · obtain rfl : t = .openReference := ‹_›
    exact openReference_located (InPlace.outside _ outer).frames
  · split <;> exact .outside _ _
  · exact .outside _ _

/-- A reader stays in place, or its error points at the culprit. -/
theorem step_located (ht : t.source ≠ []) (h : r.InPlace done) :
    Located (done ++ String.ofList t.source)
      (r.step registry config ⟨done.utf8ByteSize, t⟩ next) := by
  rcases r with ⟨outer, frames, mode⟩
  have hframes : ∀ f ∈ frames, f.InPlace (done ++ String.ofList t.source) := by
    intro f hf
    exact (h.frames f hf).append _
  cases mode with
  | naming position name => exact stepNaming_located ht hframes h.mode
  | closing position source piece => exact stepClosing_located ht hframes
  | content =>
    cases frames with
    | nil => exact stepOuter_located
    | cons f fs => exact stepArgument_located hframes

/-- What is open at the end of a text is where the error tells. -/
theorem finish_located {e : CompileError} (h : r.InPlace text) (he : r.finish = .error e) :
    WrittenAt text e.position e.culprit := by
  rcases r with ⟨outer, frames, mode⟩
  cases mode with
  | naming position name =>
    rcases h.mode with ⟨before, htext, hbefore⟩
    cases he
    exact ⟨before, name, by rw [htext, String.append_assoc]; rfl, hbefore⟩
  | closing position source piece =>
    cases he
    exact h.mode
  | content =>
    cases frames with
    | nil => cases he
    | cons f fs =>
      have hf := h.frames f List.mem_cons_self
      cases he
      -- The innermost parenthesis is a plain one, or that of the call.
      show WrittenAt text (f.parens.head?.getD f.paren) "("
      cases hp : f.parens with
      | nil => exact hf.paren
      | cons n parens => exact hf.parens n (by rw [hp]; exact List.mem_cons_self)

end Reader

namespace Grammar

variable {registry : Registry} {config : EngineConfig} {r : Reader} {done : String}

/-- What holds of a step holds of all symbols of a text. -/
theorem read_located (us : List Symbol) (h : r.InPlace done) :
    Reader.Located (done ++ String.ofList (spelling us))
      (read registry config r done.utf8ByteSize us) := by
  induction us generalizing r done with
  | nil =>
    rw [spelling_nil, String.ofList_nil, String.append_empty]
    exact h
  | cons u us ih =>
    have hne : u.token.source ≠ [] := by
      rw [Symbol.source_token]
      cases u <;> simp [Symbol.written]
    have hstep : Reader.Located (done ++ String.ofList u.token.source)
        (r.step registry config ⟨done.utf8ByteSize, u.token⟩ (us.head?.map Symbol.token)) :=
      Reader.step_located hne h
    rw [Symbol.source_token] at hstep
    have hsplit : done ++ String.ofList (spelling (u :: us)) =
        done ++ String.ofList u.written ++ String.ofList (spelling us) := by
      rw [spelling_cons, String.ofList_append, String.append_assoc]
    rw [read_cons, hsplit]
    cases hr : r.step registry config ⟨done.utf8ByteSize, u.token⟩ (us.head?.map Symbol.token) with
    | error e =>
      rw [hr] at hstep
      exact WrittenAt.append hstep _
    | ok r' =>
      rw [hr] at hstep
      have hsize : done.utf8ByteSize + utf8Width u.written =
          (done ++ String.ofList u.written).utf8ByteSize := by
        rw [String.utf8ByteSize_append, utf8ByteSize_ofList]
      simp only [hsize]
      exact ih hstep

theorem parse_error_located {text : String} {e : CompileError}
    (h : parse registry config text = .error e) : WrittenAt text e.position e.culprit := by
  rcases exists_splits text.toList with ⟨us, hs⟩
  have hread : Reader.Located ("" ++ String.ofList (spelling us)) (read registry config {} 0 us) :=
    read_located us (.outside "" {})
  have hrun : Reader.run registry config {} (Token.scan text) = read registry config {} 0 us :=
    run_ofChars hs {} 0
  rw [hs.spelling_eq, String.ofList_toList, String.empty_append, ← hrun] at hread
  rcases Reader.parse_eq_error h with herror | ⟨r, hok, hfinish⟩
  · rw [herror] at hread
    exact hread
  · rw [hok] at hread
    exact Reader.finish_located hread hfinish

end Grammar

/-- Every error points into the text, at its culprit. The line and the column of this offset, with
each line feed as the end of its line, have the character that the culprit begins with. It stands
in the line itself, unless it is the line feed that ends this line. -/
theorem Engine.compile_error_points {engine : Engine} {text : String} {m : Machine}
    {e : CompileError} (h : (engine.compile text m).1 = .error e) :
    e.position < text.utf8ByteSize ∧ WrittenAt text e.position e.culprit ∧
      ∃ c rest, e.culprit.toList = c :: rest ∧
        StandsAt (Text.withEnds (Text.splitOn '\n' text.toList)) (lineColumn text e.position) c ∧
        (c ≠ '\n' → StandsAt (Text.splitOn '\n' text.toList) (lineColumn text e.position) c) ∧
        (c = '\n' → EndsAt (Text.splitOn '\n' text.toList) (lineColumn text e.position)) := by
  have hw := Grammar.parse_error_located (Engine.compile_eq_error_iff.mp h)
  rcases List.exists_cons_of_ne_nil e.culprit_ne_empty with ⟨c, rest, hculprit⟩
  have hstands := hw.standsAt hculprit
  have hpos : 0 < e.culprit.utf8ByteSize := by
    have hc := c.utf8Size_pos
    rw [← utf8Width_toList, hculprit, utf8Width]
    omega
  have hle := hw.le_size
  refine ⟨by omega, hw, c, rest, hculprit, hstands, ?_, ?_⟩
  · intro hc
    exact hstands.of_withEnds.resolve_right fun hend => hc hend.1
  · intro hc
    exact (hstands.of_withEnds.resolve_left fun hline => hline.ne_lineFeed hc).2

/-- A letter between the arguments of a call and its brace, in the second line. -/
def strayLetter : String := "é\n$\x7btally(a)x\x7d"

open Session in
theorem Engine.compile_error_points_strayLetter :
    (tallyEngine.compile strayLetter { entropy := ⟨0⟩ }).1 =
        .error (.unexpectedCharacter 'x' .closingBrace 13) ∧
      WrittenAt strayLetter 13 "x" ∧
      StandsAt (Text.splitOn '\n' strayLetter.toList) ⟨2, 11⟩ 'x' := by
  have h : (tallyEngine.compile strayLetter { entropy := ⟨0⟩ }).1 =
      .error (.unexpectedCharacter 'x' .closingBrace 13) := rfl
  have hplace : lineColumn strayLetter 13 = ⟨2, 11⟩ := rfl
  rcases compile_error_points h with ⟨-, hw, c, rest, hc, -, hstands, -⟩
  cases hc
  refine ⟨h, hw, ?_⟩
  rw [← hplace]
  exact hstands (by decide)

/-- A line feed between the arguments of a call and its brace. -/
def strayLineFeed : String := "$\x7btally(a)\n\x7d"

open Session in
/-- The error tells the column behind the ten characters of the first line. -/
theorem Engine.compile_error_lineFeed_standsNowhere :
    (tallyEngine.compile strayLineFeed { entropy := ⟨0⟩ }).1 =
        .error (.unexpectedCharacter '\n' .closingBrace 10) ∧
      lineColumn strayLineFeed 10 = ⟨1, 11⟩ ∧
      ∀ c, ¬ StandsAt (Text.splitOn '\n' strayLineFeed.toList) ⟨1, 11⟩ c := by
  have hends : EndsAt (Text.splitOn '\n' strayLineFeed.toList) ⟨1, 11⟩ :=
    ⟨0, "$\x7btally(a)".toList, rfl, rfl, by decide⟩
  exact ⟨rfl, rfl, fun _ => hends.not_standsAt⟩

end TextTemplate
