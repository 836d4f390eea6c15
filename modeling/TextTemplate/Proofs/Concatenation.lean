import TextTemplate.Proofs.Compilation
import TextTemplate.Proofs.Uniformity

/-!
# Texts one after the other

A template text that compiles, followed by another text, is read like the two of them apart.

* `Splits.append`: the symbols of the whole text are those of its parts, unless the first part ends
  with a `$` or a backslash.
* `Reader.complete_detached`: a reader does not look at what stands before, outside of references.
* `joinPieces` puts the pieces of two trees together, and `parse_append_eq` is how the whole text is
  parsed.
-/

namespace TextTemplate

namespace Grammar

universe u

variable {registry : Registry} {config : EngineConfig}

/-! ## Symbols -/

/-- The symbols of a text are those of its two parts, unless the last character of the first part
can start a longer symbol. -/
theorem Splits.append {cs ds : List Char} {us vs : List Symbol} (h : Splits cs us)
    (hlast : ∀ c ∈ cs.getLast?, c ≠ '\\' ∧ c ≠ '$') (h' : Splits ds vs) :
    Splits (cs ++ ds) (us ++ vs) := by
  -- What holds of the last character of a text holds of the last character of its rest.
  have hrest : ∀ {k cs : List Char}, (∀ c ∈ (k ++ cs).getLast?, c ≠ '\\' ∧ c ≠ '$') →
      ∀ c ∈ cs.getLast?, c ≠ '\\' ∧ c ≠ '$' := by
    intro k cs hk c hc
    exact hk c (getLast?_append_of_eq_some hc k)
  induction h with
  | nil => exact h'
  | @pair c cs us quotable _ ih => exact .pair quotable (ih (hrest (k := ['\\', c]) hlast))
  | @opening cs us _ ih => exact .opening (ih (hrest (k := ['$', '{']) hlast))
  | @single c cs us unpaired unopened _ ih =>
    have hs := ih (hrest (k := [c]) hlast)
    cases cs with
    | cons d cs => exact .single unpaired unopened hs
    | nil =>
      -- The last character of the first part starts no symbol that reaches into the second.
      rcases hlast c rfl with ⟨hbackslash, hdollar⟩
      exact .single (fun hc => absurd hc hbackslash) (fun hc => absurd hc hdollar) hs

/-- A pair at the end of the symbols is at the end of the text. -/
theorem Splits.getLast?_of_pair {cs : List Char} {us : List Symbol} (h : Splits cs us) {d : Char}
    (hl : us.getLast? = some (.pair d)) : cs.getLast? = some d := by
  induction h with
  | nil => cases hl
  | @pair c cs us _ rest ih =>
    cases us with
    | nil =>
      cases rest
      cases hl
      rfl
    | cons u us => exact getLast?_append_of_eq_some (ih hl) ['\\', c]
  | @opening cs us rest ih =>
    cases us with
    | nil => cases hl
    | cons u us => exact getLast?_append_of_eq_some (ih hl) ['$', '{']
  | @single c cs us _ _ rest ih =>
    cases us with
    | nil => cases hl
    | cons u us => exact getLast?_append_of_eq_some (ih hl) [c]

theorem Splits.width_eq {cs : List Char} {us : List Symbol} (h : Splits cs us) :
    width us = utf8Width cs := by
  rw [width, h.spelling_eq]

end Grammar

/-! ## What stands before -/

namespace Reader

variable (registry : Registry) (config : EngineConfig)

/-- The same state of reading without what has been read outside of references. -/
def detached (r : Reader) : Reader := { r with outer := {} }

theorem supply_detached (r : Reader) (source : String) (piece : Piece Routine) :
    (r.detached.supply source piece).detached = (r.supply source piece).detached := by
  rcases r with ⟨outer, frames, mode⟩
  cases frames <;> rfl

theorem openReference_detached (r : Reader) (position : Nat) :
    (r.detached.openReference config position).map detached =
      (r.openReference config position).map detached := by
  have hframes : r.detached.frames = r.frames := rfl
  unfold openReference
  rw [hframes]
  split <;> rfl

theorem finishName_detached (r : Reader) (position : Nat) (name : String) :
    (r.detached.finishName registry position name).map detached =
      (r.finishName registry position name).map detached := by
  simp only [finishName]
  cases registry.lookup name with
  | none => simp only [Except.map, supply_detached]
  | some routine =>
    simp only
    cases arityError? routine 0 position with
    | none => simp only [Except.map, supply_detached]
    | some e => rfl

theorem openCall_detached (r : Reader) (position : Nat) (name : String) (paren : Nat) :
    (r.detached.openCall registry position name paren).map detached =
      (r.openCall registry position name paren).map detached := by
  unfold openCall
  split <;> rfl

theorem finishArguments_detached (r : Reader) (f : Frame) (fs : List Frame) :
    (r.detached.finishArguments config f fs).map detached =
      (r.finishArguments config f fs).map detached := by
  simp only [finishArguments]
  split <;> rfl

theorem stepNaming_detached (r : Reader) (position : Nat) (name : String) (l : Lexeme) :
    (r.detached.stepNaming registry position name l).map detached =
      (r.stepNaming registry position name l).map detached := by
  unfold stepNaming
  split
  · split <;> rfl
  · split
    · rfl
    · exact openCall_detached registry r position name l.start
  · split
    · rfl
    · exact finishName_detached registry r position name
  · rfl

theorem stepClosing_detached (r : Reader) (source : String) (piece : Piece Routine) (l : Lexeme) :
    (r.detached.stepClosing source piece l).map detached =
      (r.stepClosing source piece l).map detached := by
  unfold stepClosing
  split
  · simp only [Except.map, supply_detached]
  · rfl

theorem stepArgument_detached (r : Reader) (f : Frame) (fs : List Frame) (l : Lexeme) :
    (r.detached.stepArgument config f fs l).map detached =
      (r.stepArgument config f fs l).map detached := by
  rcases l with ⟨start, token⟩
  cases token with
  | comma =>
    cases hp : f.parens with
    | nil => simp only [stepArgument, hp, Except.map, detached]
    | cons p ps => simp only [stepArgument, hp, Except.map, detached]
  | rightParen =>
    cases hp : f.parens with
    | nil =>
      simp only [stepArgument, hp]
      exact finishArguments_detached config r f fs
    | cons p ps => simp only [stepArgument, hp, Except.map, detached]
  | openReference => exact openReference_detached config r start
  | text | escaped | leftParen | rightBrace => rfl

theorem stepOuter_detached (r : Reader) (l : Lexeme) (next : Option Token) :
    (r.detached.stepOuter config l next).map detached =
      (r.stepOuter config l next).map detached := by
  unfold stepOuter
  split
  · exact openReference_detached config r l.start
  · split <;> rfl
  · rfl

/-- A step does not look at what stands before. -/
theorem step_detached (r : Reader) (l : Lexeme) (next : Option Token) :
    (r.detached.step registry config l next).map detached =
      (r.step registry config l next).map detached := by
  rcases r with ⟨outer, frames, mode⟩
  cases mode with
  | naming position name => exact stepNaming_detached registry ⟨outer, frames, _⟩ position name l
  | closing position source piece =>
    exact stepClosing_detached ⟨outer, frames, _⟩ source piece l
  | content =>
    cases frames with
    | nil => exact stepOuter_detached config ⟨outer, [], _⟩ l next
    | cons f fs => exact stepArgument_detached config ⟨outer, f :: fs, _⟩ f fs l

theorem complete_cons (r : Reader) (l : Lexeme) (ls : List Lexeme) :
    r.complete registry config (l :: ls) =
      match r.step registry config l (ls.head?.map Lexeme.token) with
      | .error e => .error e
      | .ok next => next.complete registry config ls := by
  rw [complete, Grammar.run_cons]
  cases r.step registry config l (ls.head?.map Lexeme.token) <;> rfl

/-- The error of a text does not depend on what stands before. -/
theorem complete_detached (r : Reader) (ls : List Lexeme) (e : CompileError) :
    r.detached.complete registry config ls = .error e ↔ r.complete registry config ls = .error e := by
  induction ls generalizing r with
  | nil =>
    rcases r with ⟨outer, frames, mode⟩
    cases mode with
    | naming | closing => exact Iff.rfl
    | content =>
      cases frames with
      | nil => exact ⟨nofun, nofun⟩
      | cons f fs => exact Iff.rfl
  | cons l ls ih =>
    have hstep := step_detached registry config r l (ls.head?.map Lexeme.token)
    rw [complete_cons, complete_cons]
    cases hd : r.detached.step registry config l (ls.head?.map Lexeme.token) with
    | error e' =>
      cases hr : r.step registry config l (ls.head?.map Lexeme.token) with
      | error e'' =>
        rw [hd, hr] at hstep
        cases hstep
        exact Iff.rfl
      | ok next =>
        rw [hd, hr] at hstep
        cases hstep
    | ok next =>
      cases hr : r.step registry config l (ls.head?.map Lexeme.token) with
      | error e'' =>
        rw [hd, hr] at hstep
        cases hstep
      | ok next' =>
        -- The two go on from states that differ only in what stands before.
        rw [hd, hr] at hstep
        have hnext : next.detached = next'.detached := Except.ok.inj hstep
        show next.complete registry config ls = _ ↔ next'.complete registry config ls = _
        rw [← ih next, hnext, ih next']

end Reader

namespace Grammar

/-! ## Pieces -/

/-- Pieces followed by more pieces. A plain text at the end of the first joins one at the start of
the others. -/
def joinPieces {α : Type u} : List (Piece α) → List (Piece α) → List (Piece α)
  | [], qs => qs
  | [.text s], qs => consText s qs
  | p :: ps, qs => p :: joinPieces ps qs

example : joinPieces [.var "a" 0, .text "b"] [.text "c", .var "d" 1] =
    [.var "a" 0, .text "bc", (.var "d" 1 : Piece Nat)] := rfl

theorem joinPieces_cons_of_isDynamic {α : Type u} {p : Piece α} (h : p.isDynamic = true)
    (ps qs : List (Piece α)) : joinPieces (p :: ps) qs = p :: joinPieces ps qs := by
  cases p with
  | text => cases h
  | var => rw [joinPieces]; rintro s ⟨⟩
  | call => rw [joinPieces]; rintro s ⟨⟩

theorem joinPieces_text_of_ne_nil {α : Type u} (s : String) {ps : List (Piece α)} (h : ps ≠ [])
    (qs : List (Piece α)) : joinPieces (.text s :: ps) qs = .text s :: joinPieces ps qs := by
  cases ps with
  | nil => exact absurd rfl h
  | cons p ps => rfl

theorem consText_joinPieces {α : Type u} (s : String) (ps qs : List (Piece α)) :
    consText s (joinPieces ps qs) = joinPieces (consText s ps) qs := by
  by_cases hs : s = ""
  · rw [hs, consText_empty, consText_empty]
  match ps with
  | [] => simp [consText, joinPieces, hs]
  | .text t :: [] =>
    rw [joinPieces, consText_consText, show consText s [.text t] = [.text (s ++ t)] from if_neg hs,
      joinPieces]
  | .text t :: p :: ps => simp [consText, joinPieces, hs]
  | .var name position :: ps => simp [consText, joinPieces, hs]
  | .call key callee arguments position :: ps => simp [consText, joinPieces, hs]

/-- To put adjacent texts together in two parts first and then between them is to do it at once. -/
theorem mergeTexts_append {α : Type u} (ps qs : List (Piece α)) :
    mergeTexts (ps ++ qs) = joinPieces (mergeTexts ps) (mergeTexts qs) := by
  induction ps with
  | nil => rfl
  | cons p ps ih =>
    cases p with
    | text s => rw [List.cons_append, mergeTexts, ih, consText_joinPieces, mergeTexts]
    | var name position =>
      rw [List.cons_append, mergeTexts, ih, mergeTexts, joinPieces_cons_of_isDynamic rfl]
      · rintro s ⟨⟩
      · rintro s ⟨⟩
    | call key callee arguments position =>
      rw [List.cons_append, mergeTexts, ih, mergeTexts, joinPieces_cons_of_isDynamic rfl]
      · rintro s ⟨⟩
      · rintro s ⟨⟩

/-! ## Parsing -/

theorem configTransfer_id (config : EngineConfig) : ConfigTransfer id config config := ⟨rfl, rfl⟩

/-- What reading symbols at an offset gives. -/
def readAll (registry : Registry) (config : EngineConfig) (d : Draft) (n : Nat)
    (us : List Symbol) : Except CompileError (List (Piece Routine)) :=
  Reader.complete registry config ⟨d, [], .content⟩ (Lexeme.place n (us.map Symbol.token))

/-- Reading further on in a text. -/
theorem readAll_add (n : Nat) (us : List Symbol) :
    readAll registry config {} n us =
      moveOutcome n (transferPieces id n) (readAll registry config {} 0 us) := by
  have hcomplete := Reader.complete_transfer n (configTransfer_id config) registry {}
    (Lexeme.place 0 (us.map Symbol.token))
  rw [← Lexeme.place_add, Nat.zero_add] at hcomplete
  exact hcomplete

theorem parse_eq_readAll {text : String} {us : List Symbol} (h : Splits text.toList us) :
    parse registry config text =
      (readAll registry config {} 0 us).map
        (⟨text, ·, Cache.fresh config.staticCaching⟩) := by
  have hrun : Reader.run registry config {} (Token.scan text) = read registry config {} 0 us :=
    run_ofChars h {} 0
  rw [parse_eq_complete, Reader.complete, hrun]
  rfl

/-- Reading after other pieces joins what is read to them. -/
theorem readAll_foldl_put (ps : List (Piece Routine)) (n : Nat) (us : List Symbol) :
    readAll registry config (ps.foldl put {}) n us =
      (readAll registry config {} n us).map (joinPieces (mergeTexts ps)) := by
  cases hr : readAll registry config {} n us with
  | error e => exact (Reader.complete_detached registry config _ _ e).mp hr
  | ok pieces =>
    -- What is read to its end can be derived, and is read after anything as it is derived.
    have haccepts : Accepts registry config {} n us := by
      unfold readAll Reader.complete at hr
      split at hr
      · cases hr
      · exact ⟨_, _, ‹_›, hr⟩
    rcases exists_template haccepts with ⟨qs, hqs⟩
    have hread : ∀ d : Draft, readAll registry config d n us = .ok (qs.foldl put d).finish := by
      intro d
      have hd := hqs.read_eq d
      unfold read at hd
      rw [readAll, Reader.complete, hd]
      rfl
    rw [hread, finish_foldl_put_empty] at hr
    cases hr
    rw [hread, ← List.foldl_append, finish_foldl_put_empty, mergeTexts_append]
    rfl

/-- A text that compiles, followed by another text: what the other is parsed to, moved on and joined
to what stands before, or its error, moved on. -/
theorem parse_append_eq {a : String} {tree : Expression Routine}
    (ha : parse registry config a = .ok tree) (hlast : ∀ c ∈ a.toList.getLast?, c ≠ '\\' ∧ c ≠ '$')
    (b : String) :
    parse registry config (a ++ b) =
      moveOutcome (utf8Width a.toList)
        (fun t => ⟨a ++ b, joinPieces tree.pieces (transferPieces id (utf8Width a.toList) t.pieces),
          Cache.fresh config.staticCaching⟩)
        (parse registry config b) := by
  rcases derives_of_parse ha with ⟨us, ps, hus, ht, rfl⟩
  rcases exists_splits b.toList with ⟨vs, hvs⟩
  have hsplits : Splits (a ++ b).toList (us ++ vs) := by
    rw [String.toList_append]
    exact hus.append hlast hvs
  have hkept : us.getLast? = some (.pair '$') → vs.head? ≠ some (.single '{') := by
    intro hl
    exact absurd rfl (hlast '$' (hus.getLast?_of_pair hl)).2
  -- The first part is read as it was, and leaves its pieces before the second one.
  have hread : readAll registry config {} 0 (us ++ vs) =
      readAll registry config (ps.foldl put {}) (utf8Width a.toList) vs := by
    have h := ht.read_append {} hkept
    rw [Nat.zero_add, hus.width_eq] at h
    unfold readAll Reader.complete
    unfold read at h
    rw [h]
  rw [parse_eq_readAll hsplits, parse_eq_readAll hvs, hread, readAll_foldl_put, readAll_add]
  cases readAll registry config {} 0 vs <;> rfl

end Grammar

end TextTemplate
