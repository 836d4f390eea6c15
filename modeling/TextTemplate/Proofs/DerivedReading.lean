import TextTemplate.Proofs.SymbolReading

/-!
# Reading what can be derived

A text for which a tree can be derived is read as it is derived, whatever follows.

* `Reference.read_append`, `Arguments.read_append` and `Argument.read_append` say so of the parts
  of a text, in any reader with any symbols after them.
* `parse_eq_of_derives`: the text is parsed to the tree.
-/

namespace TextTemplate.Grammar

variable {registry : Registry} {config : EngineConfig}

/-! ## Drafts -/

/-- Appends a piece to a draft; plain text joins the text at its end. -/
def put (d : Draft) : Piece Routine → Draft
  | .text s => { d with plain := d.plain ++ s }
  | p => d.add p

theorem write_eq_put (d : Draft) (cs : List Char) : d.write cs = put d (plain cs) := rfl

theorem add_eq_put (d : Draft) {p : Piece Routine} (h : p.isDynamic = true) :
    d.add p = put d p := by
  cases p with
  | text => cases h
  | var => rfl
  | call => rfl

theorem consText_empty {α : Type u} (ps : List (Piece α)) : consText "" ps = ps := by
  unfold consText
  split <;> rfl

theorem consText_consText {α : Type u} (s t : String) (ps : List (Piece α)) :
    consText s (consText t ps) = consText (s ++ t) ps := by
  by_cases hs : s = ""
  · rw [hs, consText_empty, String.empty_append]
  by_cases ht : t = ""
  · rw [ht, consText_empty, String.append_empty]
  cases ps with
  | nil => simp [consText, hs, ht]
  | cons p ps => cases p <;> simp [consText, hs, ht, String.append_assoc]

/-- What does not look at plain texts does not notice that they are put together. -/
theorem apply_mergeTexts {α : Type u} {β : Type v} (f : List (Piece α) → β)
    (htext : ∀ s ps, f (.text s :: ps) = f ps)
    (hcons : ∀ p ps qs, f ps = f qs → f (p :: ps) = f (p :: qs)) (ps : List (Piece α)) :
    f (mergeTexts ps) = f ps := by
  have hconsText : ∀ s qs, f (consText s qs) = f qs := by
    intro s qs
    unfold consText
    split
    · split
      · rfl
      · rw [htext, htext]
    · split
      · rfl
      · rw [htext]
  induction ps with
  | nil => rfl
  | cons p ps ih =>
    cases p with
    | text s => rw [mergeTexts, hconsText, htext, ih]
    | var name position => exact hcons _ _ _ ih
    | call key callee arguments position => exact hcons _ _ _ ih

/-- A draft that pieces are appended to ends as these pieces with adjacent texts put together. -/
theorem finish_foldl_put (d : Draft) (ps : List (Piece Routine)) :
    (ps.foldl put d).finish = d.pieces.reverse ++ consText d.plain (mergeTexts ps) := by
  have hclosed : ∀ (d : Draft) (p : Piece Routine) (qs : List (Piece Routine)),
      p.isDynamic = true → d.closed.reverse ++ p :: qs =
        d.pieces.reverse ++ consText d.plain (p :: qs) := by
    intro d p qs hp
    cases p with
    | text => cases hp
    | _ => by_cases h : d.plain = "" <;> simp [Draft.closed, consText, h]
  induction ps generalizing d with
  | nil => by_cases h : d.plain = "" <;> simp [Draft.finish, Draft.closed, mergeTexts, consText, h]
  | cons p ps ih =>
    rw [List.foldl_cons, ih]
    cases p with
    | text s => simp [put, mergeTexts, consText_consText]
    | var name position =>
      simpa [put, Draft.add, mergeTexts, consText_empty] using hclosed d _ (mergeTexts ps) rfl
    | call key routine arguments position =>
      simpa [put, Draft.add, mergeTexts, consText_empty] using hclosed d _ (mergeTexts ps) rfl

theorem finish_foldl_put_empty (ps : List (Piece Routine)) :
    (ps.foldl put {}).finish = mergeTexts ps := by
  simpa [consText_empty] using finish_foldl_put {} ps

/-! ## What can be derived is read -/

/-- The frame of a call after symbols of an argument that stand for pieces, with no plain
parenthesis open. -/
def extend (f : Frame) (us : List Symbol) (ps : List (Piece Routine)) : Frame :=
  { f with
    raw := f.raw ++ String.ofList (spelling us)
    draft := ps.foldl put f.draft
    parens := [] }

theorem extend_nil {f : Frame} (h : f.parens = []) : extend f [] [] = f := by
  rcases f with ⟨_, _, _, _, _, _, _, _, _⟩
  cases h
  simp [extend, spelling]

/-- Going on after a plain symbol. -/
theorem extend_write (f : Frame) (u : Symbol) (cs : List Char) (us : List Symbol)
    (ps : List (Piece Routine)) :
    extend (f.write u.written cs) us ps = extend f (u :: us) (plain cs :: ps) := by
  simp [extend, Frame.write, spelling, write_eq_put, String.append_assoc, String.ofList_append]

/-- Going on after a reference. -/
theorem extend_add (f : Frame) (us : List Symbol) {p : Piece Routine} (hp : p.isDynamic = true)
    (vs : List Symbol) (ps : List (Piece Routine)) :
    extend (f.add (String.ofList (spelling us)) p) vs ps = extend f (us ++ vs) (p :: ps) := by
  simp [extend, Frame.add, spelling, add_eq_put _ hp, String.append_assoc, String.ofList_append]

theorem Reference.isDynamic {depth n : Nat} {us : List Symbol} {p : Piece Routine}
    (h : Reference registry config depth n us p) : p.isDynamic = true := by
  cases h <;> rfl

theorem callArguments_append (es : List (Expression Routine)) (e : Expression Routine) :
    callArguments (es ++ [e]) = if es.isEmpty && e.raw = "" then [] else es ++ [e] := by
  match es with
  | [] => by_cases h : e.raw = "" <;> simp [callArguments, h]
  | [_] => simp [callArguments]
  | _ :: _ :: _ => simp [callArguments]

/-- `g` is the frame `f` of a call after the symbols `us` of all arguments `es` that it lacks. -/
structure Completes (config : EngineConfig) (f g : Frame) (us : List Symbol)
    (es : List (Expression Routine)) : Prop where
  key : g.key = f.key
  routine : g.routine = f.routine
  position : g.position = f.position
  parens : g.parens = []
  source : g.source ++ g.raw = f.source ++ String.ofList (spelling us)
  arguments : g.finalArguments config = callArguments (f.arguments.reverse ++ es)

/-- Whether a frame is at the start of an argument. -/
structure Begins (f : Frame) : Prop where
  raw : f.raw = ""
  draft : f.draft = {}
  parens : f.parens = []

theorem allArguments_extend {f : Frame} (h : Begins f) (us : List Symbol)
    (ps : List (Piece Routine)) :
    (extend f us ps).allArguments config = argument config us ps :: f.arguments := by
  simp [Frame.allArguments, extend, argument, h.raw, h.draft, finish_foldl_put_empty]

theorem completes_last {f : Frame} (h : Begins f) (us : List Symbol) (ps : List (Piece Routine)) :
    Completes config f (extend f us ps) us [argument config us ps] where
  key := rfl
  routine := rfl
  position := rfl
  parens := rfl
  source := by simp [extend, h.raw]
  arguments := by
    rw [callArguments_append, Frame.finalArguments, allArguments_extend h]
    simp [extend, argument, h.raw]

theorem begins_nextArgument (f : Frame) : Begins (f.nextArgument config) := ⟨rfl, rfl, rfl⟩

theorem completes_more {f g : Frame} (h : Begins f) {us vs : List Symbol}
    {ps : List (Piece Routine)} {es : List (Expression Routine)}
    (hg : Completes config ((extend f us ps).nextArgument config) g vs es) :
    Completes config f g (us ++ .single ',' :: vs) (argument config us ps :: es) where
  key := hg.key
  routine := hg.routine
  position := hg.position
  parens := hg.parens
  source := by
    rw [hg.source]
    simp [Frame.nextArgument, extend, h.raw, spelling, Symbol.written, String.append_assoc,
      String.ofList_append]
  arguments := by
    rw [hg.arguments]
    simp [Frame.nextArgument, allArguments_extend h]

/-- What reading makes of a reference, inside of calls and before other symbols. -/
def ReferenceReads (registry : Registry) (config : EngineConfig) (depth n : Nat)
    (us : List Symbol) (p : Piece Routine) : Prop :=
  ∀ (outer : Draft) (frames : List Frame) (rest : List Symbol), frames.length + 1 = depth →
    read registry config ⟨outer, frames, .content⟩ n (us ++ rest) =
      read registry config
        (Reader.supply ⟨outer, frames, .content⟩ (String.ofList (spelling us)) p)
        (n + width us) rest

/-- What reading makes of arguments, in the call that they belong to. -/
def ArgumentsRead (registry : Registry) (config : EngineConfig) (depth n : Nat)
    (us : List Symbol) (es : List (Expression Routine)) : Prop :=
  ∀ (outer : Draft) (f : Frame) (fs : List Frame), fs.length + 1 = depth → Begins f →
    ∃ g, Completes config f g us es ∧ ∀ rest,
      read registry config ⟨outer, f :: fs, .content⟩ n (us ++ rest) =
        read registry config ⟨outer, g :: fs, .content⟩ (n + width us) rest

/-- What reading makes of the rest of an argument with `k` plain parentheses open. -/
def ArgumentReads (registry : Registry) (config : EngineConfig) (depth k n : Nat)
    (us : List Symbol) (ps : List (Piece Routine)) : Prop :=
  ∀ (outer : Draft) (f : Frame) (fs : List Frame) (rest : List Symbol), fs.length + 1 = depth →
    f.parens.length = k →
    read registry config ⟨outer, f :: fs, .content⟩ n (us ++ rest) =
      read registry config ⟨outer, extend f us ps :: fs, .content⟩ (n + width us) rest

theorem supply_naming (outer : Draft) (frames : List Frame) (position : Nat) (name source : String)
    (p : Piece Routine) :
    Reader.supply ⟨outer, frames, .naming position name⟩ source p =
      Reader.supply ⟨outer, frames, .content⟩ source p := by
  cases frames <;> rfl

theorem arityError?_of_accepts {routine : Routine} {count : Nat} (position : Nat)
    (h : routine.signature.accepts count = true) : arityError? routine count position = none := by
  simp [arityError?, h]

theorem ofList_ne_empty {name : List Char} (h : name ≠ []) : String.ofList name ≠ "" := by
  simpa using h

/-- Up to its name, every reference is read alike. -/
theorem read_opening_name {name : List Char} (h : IsIdentifier name) (outer : Draft)
    (frames : List Frame) (hd : frames.length < config.maxNestingDepth) (n : Nat)
    (us : List Symbol) :
    read registry config ⟨outer, frames, .content⟩ n (.opening :: (name.map .single ++ us)) =
      read registry config ⟨outer, frames, .naming n (String.ofList name)⟩
        (n + 2 + utf8Width name) us := by
  rw [read_opening, if_pos hd, read_name _ _ _ _ _ _ h.2, String.empty_append]

/-- A bare name. -/
theorem bare_reads {depth n : Nat} {name : List Char} {p : Piece Routine}
    (allowed : depth ≤ config.maxNestingDepth) (h : IsIdentifier name)
    (hfinish : ∀ r : Reader, r.finishName registry n (String.ofList name) =
      .ok (r.supply ("$\x7b" ++ String.ofList name ++ "\x7d") p)) :
    ReferenceReads registry config depth n (.opening :: name.map .single ++ [.single '}']) p := by
  rintro outer frames rest rfl
  have hw : n + width (.opening :: name.map .single ++ [.single '}']) =
      n + 2 + utf8Width name + 1 := by
    simp only [width_append, width_opening, width_map_single, width_single, utf8Size_rightBrace,
      width_nil, Nat.add_assoc]
  rw [spelling_bare, hw, List.append_assoc, List.cons_append,
    read_opening_name h outer frames allowed, List.singleton_append, read_name_rightBrace _ _ _ _ _ _ (ofList_ne_empty h.1), hfinish]
  simp only [supply_naming]

/-- A call with arguments in parentheses. -/
theorem call_reads {depth n : Nat} {name : List Char} {routine : Routine} {us : List Symbol}
    {es : List (Expression Routine)} (allowed : depth ≤ config.maxNestingDepth)
    (h : IsIdentifier name) (known : registry.lookup (String.ofList name) = some routine)
    (accepted : routine.signature.accepts (callArguments es).length = true)
    (ih : ArgumentsRead registry config depth (n + 2 + utf8Width name + 1) us es) :
    ReferenceReads registry config depth n
      (.opening :: name.map .single ++ .single '(' :: us ++ [.single ')', .single '}'])
      (.call (String.ofList name) routine (callArguments es) n) := by
  rintro outer frames rest rfl
  let f : Frame :=
    { key := String.ofList name, routine, position := n, paren := n + 2 + utf8Width name,
      source := "$\x7b" ++ String.ofList name ++ "(" }
  rcases ih outer f frames rfl ⟨rfl, rfl, rfl⟩ with ⟨g, hg, hread⟩
  have hopen : Reader.openCall registry
      ⟨outer, frames, .naming n (String.ofList name)⟩ n (String.ofList name)
        (n + 2 + utf8Width name) = .ok ⟨outer, f :: frames, .content⟩ := by
    simp only [Reader.openCall, known]
    rfl
  have hfinish : Reader.finishArguments config ⟨outer, g :: frames, .content⟩ g frames =
      .ok ⟨outer, frames, .closing n (f.source ++ String.ofList (spelling us) ++ ")")
        (.call (String.ofList name) routine (callArguments es) n)⟩ := by
    have hargs : g.finalArguments config = callArguments es := hg.arguments
    have hg₁ : g.routine = routine := hg.routine
    have hg₂ : g.key = String.ofList name := hg.key
    have hg₃ : g.position = n := hg.position
    simp only [Reader.finishArguments, hargs, hg₁, hg₂, hg₃, arityError?_of_accepts n accepted,
      hg.source]
  have hs : String.ofList (spelling
        (.opening :: name.map .single ++ .single '(' :: us ++ [.single ')', .single '}'])) =
      f.source ++ String.ofList (spelling us) ++ ")" ++ "\x7d" := by
    have hend : ")\x7d" = ")" ++ "\x7d" := rfl
    rw [spelling_call, hend, ← String.append_assoc]
  have hw : n + width
        (.opening :: name.map .single ++ .single '(' :: us ++ [.single ')', .single '}']) =
      n + 2 + utf8Width name + 1 + width us + 1 + 1 := by
    simp only [List.cons_append, width_append, width_opening, width_map_single, width_single,
      utf8Size_leftParen, utf8Size_rightParen, utf8Size_rightBrace, width_nil]
    omega
  have happend : (Symbol.opening :: name.map .single ++ .single '(' :: us ++
        [.single ')', .single '}']) ++ rest =
      .opening :: (name.map .single ++
        .single '(' :: (us ++ .single ')' :: .single '}' :: rest)) := by
    simp
  rw [hs, hw, happend, read_opening_name h outer frames allowed,
    read_name_leftParen _ _ _ _ _ _ (ofList_ne_empty h.1), hopen]
  simp only [hread, read_close _ _ _ _ _ hg.parens, hfinish, read_closing]

/-- A symbol that contributes plain text, before more of an argument. It may open or close a plain
parenthesis. -/
theorem ArgumentReads.cons {depth k k' n m : Nat} {u : Symbol} {cs : List Char} {us : List Symbol}
    {ps : List (Piece Routine)} (ih : ArgumentReads registry config depth k' m us ps)
    (hm : m = n + width [u])
    (hstep : ∀ (outer : Draft) (f : Frame) (fs : List Frame) (rest : List Symbol),
      f.parens.length = k → ∃ parens, parens.length = k' ∧
        read registry config ⟨outer, f :: fs, .content⟩ n (u :: rest) =
          read registry config ⟨outer, { f with parens }.write u.written cs :: fs, .content⟩ m
            rest) :
    ArgumentReads registry config depth k n (u :: us) (plain cs :: ps) := by
  intro outer f fs rest hd hk
  rcases hstep outer f fs (us ++ rest) hk with ⟨parens, hk', hread⟩
  have hw : n + width (u :: us) = m + width us := by
    rw [hm, ← List.singleton_append, width_append, Nat.add_assoc]
  rw [List.cons_append, hread, ih outer _ fs rest hd hk', extend_write, hw]
  rfl

mutual

/-- What can be derived is read as it is derived, by induction on the derivation. -/
theorem Reference.read_append : ∀ {depth n : Nat} {us : List Symbol} {p : Piece Routine},
    Reference registry config depth n us p → ReferenceReads registry config depth n us p
  | _, _, _, _, .var allowed named unknown => by
    apply bare_reads allowed named
    intro r
    simp only [Reader.finishName, unknown]
  | _, _, _, _, .bareCall allowed named known accepted => by
    apply bare_reads allowed named
    intro r
    simp only [Reader.finishName, known, arityError?_of_accepts _ accepted]
  | _, _, _, _, .call allowed named known arguments accepted =>
    call_reads allowed named known accepted arguments.read_append

theorem Arguments.read_append : ∀ {depth n : Nat} {us : List Symbol}
    {es : List (Expression Routine)},
    Arguments registry config depth n us es → ArgumentsRead registry config depth n us es
  | _, n, us, _, @Arguments.last _ _ _ _ _ ps only => by
    intro outer f fs hd hf
    have hk : f.parens.length = 0 := by rw [hf.parens, List.length_nil]
    exact ⟨extend f us ps, completes_last hf us ps, fun rest =>
      only.read_append outer f fs rest hd hk⟩
  | _, n, _, _, @Arguments.more _ _ _ _ us ps vs _ first others => by
    intro outer f fs hd hf
    have hk : f.parens.length = 0 := by rw [hf.parens, List.length_nil]
    rcases others.read_append outer ((extend f us ps).nextArgument config) fs hd
      (begins_nextArgument _) with ⟨g, hg, hread⟩
    refine ⟨g, completes_more hf hg, fun rest => ?_⟩
    have hw : n + width (us ++ .single ',' :: vs) = n + width us + 1 + width vs := by
      simp only [width_append, width_single, utf8Size_comma]
      omega
    rw [hw, ← hread, List.append_assoc, first.read_append outer f fs _ hd hk, List.cons_append,
      read_separator _ _ _ _ _ rfl]

theorem Argument.read_append : ∀ {depth k n : Nat} {us : List Symbol} {ps : List (Piece Routine)},
    Argument registry config depth k n us ps → ArgumentReads registry config depth k n us ps
  | _, _, _, _, _, .nil => by
    intro outer f fs rest _ hk
    rw [extend_nil (List.length_eq_zero_iff.mp hk)]
    rfl
  | _, _, n, _, _, .pair others => by
    apply others.read_append.cons (by simp [Nat.add_assoc])
    intro outer f fs rest hk
    exact ⟨f.parens, hk, read_argument_pair outer f fs n rest _⟩
  | _, _, n, _, _, .leftParen others => by
    apply others.read_append.cons (by simp)
    intro outer f fs rest hk
    exact ⟨n :: f.parens, by simp [hk], read_argument_leftParen outer f fs n rest⟩
  | _, _, n, _, _, .rightParen others => by
    apply others.read_append.cons (by simp)
    intro outer f fs rest hk
    rcases List.exists_cons_of_length_eq_add_one hk with ⟨p, parens, hp⟩
    refine ⟨parens, ?_, read_argument_rightParen outer f fs n rest hp⟩
    simpa [hp] using hk
  | _, _, n, _, _, .comma others => by
    apply others.read_append.cons (by simp)
    intro outer f fs rest hk
    rcases List.exists_cons_of_length_eq_add_one hk with ⟨p, parens, hp⟩
    exact ⟨f.parens, hk, read_argument_comma outer f fs n rest hp⟩
  | _, _, n, _, _, .single ordinary others => by
    apply others.read_append.cons (by simp)
    intro outer f fs rest hk
    exact ⟨f.parens, hk, read_argument_single outer f fs n rest ordinary⟩
  | _, _, _, _, _, @Argument.reference _ _ _ _ _ us p vs _ inner others => by
    intro outer f fs rest hd hk
    have hsupply : Reader.supply ⟨outer, f :: fs, .content⟩ (String.ofList (spelling us)) p =
        ⟨outer, f.add (String.ofList (spelling us)) p :: fs, .content⟩ := rfl
    rw [List.append_assoc, inner.read_append outer (f :: fs) (vs ++ rest) (by simp [hd]), hsupply,
      others.read_append outer (f.add _ p) fs rest hd hk, extend_add f us inner.isDynamic,
      width_append, Nat.add_assoc]

end

theorem getLast?_append_of_eq_some {α : Type u} {a : α} {l : List α} (h : l.getLast? = some a)
    (k : List α) : (k ++ l).getLast? = some a := by
  rw [List.getLast?_append, h]
  rfl

/-- What is outside of references is read as it is derived, whatever follows. A quoted `$` at the end
must not become an escape by a brace after it. -/
theorem Template.read_append {n : Nat} {us : List Symbol} {ps : List (Piece Routine)}
    (h : Template registry config n us ps) (outer : Draft) {vs : List Symbol}
    (kept : us.getLast? = some (.pair '$') → vs.head? ≠ some (.single '{')) :
    read registry config ⟨outer, [], .content⟩ n (us ++ vs) =
      read registry config ⟨ps.foldl put outer, [], .content⟩ (n + width us) vs := by
  induction h generalizing outer with
  | nil => rfl
  | @escape n us ps _ ih =>
    have hw : n + width (.pair '$' :: .single '{' :: us) = n + 2 + width (.single '{' :: us) := by
      rw [width_pair, ← Nat.add_assoc]
      rfl
    have hkept := fun hl => kept (getLast?_append_of_eq_some hl [Symbol.pair '$'])
    rw [List.cons_append, List.cons_append, read_template_escape, ← List.cons_append, ih _ hkept, hw,
      write_eq_put, List.foldl_cons]
  | @pair n c us ps kept' _ ih =>
    have hw : n + width (.pair c :: us) = n + 1 + c.utf8Size + width us := by
      rw [width_pair]
      omega
    have hhead : c = '$' → (us ++ vs).head? ≠ some (.single '{') := by
      intro hc
      cases us with
      | nil => exact kept (by rw [hc]; rfl)
      | cons u us => exact kept' hc
    have hkept := fun hl => kept (getLast?_append_of_eq_some hl [Symbol.pair c])
    rw [List.cons_append, read_template_pair _ _ _ hhead, ih _ hkept, hw, write_eq_put,
      List.foldl_cons]
  | @single n c us ps _ ih =>
    have hw : n + width (.single c :: us) = n + c.utf8Size + width us := by
      rw [width_single, Nat.add_assoc]
    have hkept := fun hl => kept (getLast?_append_of_eq_some hl [Symbol.single c])
    rw [List.cons_append, read_template_single, ih _ hkept, hw, write_eq_put, List.foldl_cons]
  | @reference n us p ws ps inner _ ih =>
    have hsupply : Reader.supply ⟨outer, [], .content⟩ (String.ofList (spelling us)) p =
        ⟨put outer p, [], .content⟩ := by
      rw [← add_eq_put outer inner.isDynamic]
      rfl
    have hkept := fun hl => kept (getLast?_append_of_eq_some hl us)
    rw [List.append_assoc, inner.read_append outer [] (ws ++ vs) rfl, hsupply, ih _ hkept,
      List.foldl_cons, width_append, Nat.add_assoc]

/-- What is outside of references is read as it is derived. -/
theorem Template.read_eq {n : Nat} {us : List Symbol} {ps : List (Piece Routine)}
    (h : Template registry config n us ps) (outer : Draft) :
    read registry config ⟨outer, [], .content⟩ n us =
      .ok ⟨ps.foldl put outer, [], .content⟩ := by
  have hread : read registry config ⟨outer, [], .content⟩ n (us ++ []) =
      read registry config ⟨ps.foldl put outer, [], .content⟩ (n + width us) [] :=
    h.read_append outer (by simp)
  rw [List.append_nil] at hread
  exact hread

/-- A text compiles to what can be derived for it. -/
theorem parse_eq_of_derives {text : String} {tree : Expression Routine}
    (h : Derives registry config text tree) : parse registry config text = .ok tree := by
  rcases h with ⟨us, ps, hs, ht, rfl⟩
  have hrun : Reader.run registry config {} (Token.scan text) =
      .ok ⟨ps.foldl put {}, [], .content⟩ := (run_ofChars hs {} 0).trans (ht.read_eq {})
  simp only [parse, hrun, Reader.finish, finish_foldl_put_empty]

end TextTemplate.Grammar
