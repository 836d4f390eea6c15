import TextTemplate.Engine
import TextTemplate.Proofs.DerivedReading

/-!
# Compilation

Reading a text and deriving its tree by the rules of the grammar come to the same.

* `exists_reference`, `exists_argument`, `exists_arguments`: where reading goes on to the end of a
  text, there is something to derive.
* `compile_ok_iff_derives`: a text compiles to the trees that can be derived for it, and there is
  at most one.
-/

namespace TextTemplate.Grammar

variable {registry : Registry} {config : EngineConfig}

/-! ## What is read can be derived -/

/-- Whether reading goes on to the end of the text. -/
def Accepts (registry : Registry) (config : EngineConfig) (r : Reader) (n : Nat)
    (us : List Symbol) : Prop :=
  ∃ r' ps, read registry config r n us = .ok r' ∧ r'.finish = .ok ps

theorem Accepts.of_eq {r r' : Reader} {n n' : Nat} {us us' : List Symbol}
    (h : Accepts registry config r n us)
    (heq : read registry config r n us = read registry config r' n' us') :
    Accepts registry config r' n' us' := by
  rcases h with ⟨r'', ps, hr, hf⟩
  exact ⟨r'', ps, heq ▸ hr, hf⟩

theorem not_accepts_of_error {r : Reader} {n : Nat} {us : List Symbol} {e : CompileError}
    (h : read registry config r n us = .error e) : ¬ Accepts registry config r n us := by
  rintro ⟨r', ps, hr, -⟩
  rw [h] at hr
  cases hr

/-- Reading that goes on after a step that may fail. -/
theorem Accepts.of_match {r : Reader} {n n' : Nat} {us us' : List Symbol}
    {step : Except CompileError Reader} (h : Accepts registry config r n us)
    (heq : read registry config r n us =
      match step with
      | .error e => .error e
      | .ok next => read registry config next n' us') :
    ∃ next, step = .ok next ∧ Accepts registry config next n' us' := by
  cases step with
  | error e => exact absurd h (not_accepts_of_error heq)
  | ok next => exact ⟨next, rfl, h.of_eq heq⟩

/-- A name ends with a brace or a parenthesis. -/
theorem exists_name {outer : Draft} {frames : List Frame} {position : Nat} {us : List Symbol}
    {s : String} {n : Nat}
    (h : Accepts registry config ⟨outer, frames, .naming position s⟩ n us) :
    ∃ name c rest, us = name.map .single ++ .single c :: rest ∧ (∀ d ∈ name, d ∉ reserved) ∧
      (c = '}' ∨ c = '(') ∧ s ++ String.ofList name ≠ "" := by
  induction us generalizing s n with
  | nil =>
    rcases h with ⟨r', ps, hr, hf⟩
    cases hr
    cases hf
  | cons u us ih =>
    cases u with
    | pair c => exact absurd h (not_accepts_of_error (by rw [read_cons]; rfl))
    | opening => exact absurd h (not_accepts_of_error (by rw [read_cons]; rfl))
    | single c =>
      by_cases hc : c ∈ reserved
      · -- The name ends here, and all reserved characters but two are refused.
        have hend : c = '}' ∨ c = '(' := by
          simp only [reserved, List.mem_cons, List.not_mem_nil, or_false] at hc
          rcases hc with rfl | rfl | rfl | rfl | rfl | rfl | rfl
          · exact absurd h (not_accepts_of_error (by rw [read_cons]; rfl))
          · exact absurd h (not_accepts_of_error (by rw [read_cons]; rfl))
          · exact Or.inl rfl
          · exact Or.inr rfl
          · exact absurd h (not_accepts_of_error (by rw [read_cons]; rfl))
          · exact absurd h (not_accepts_of_error (by rw [read_cons]; rfl))
          · exact absurd h (not_accepts_of_error (by rw [read_cons]; rfl))
        have hs : s ≠ "" := by
          rintro rfl
          rcases hend with rfl | rfl
          · exact not_accepts_of_error (by rw [read_cons]; rfl) h
          · exact not_accepts_of_error (by rw [read_cons]; rfl) h
        exact ⟨[], c, us, rfl, by simp, hend, by simpa using hs⟩
      · have hstep : read registry config ⟨outer, frames, .naming position s⟩ n (.single c :: us) =
            read registry config ⟨outer, frames, .naming position (s ++ String.ofList [c])⟩
              (n + utf8Width [c]) us :=
          read_name outer n us frames position s (List.forall_mem_singleton.mpr hc)
        rcases ih (h.of_eq hstep) with ⟨name, d, rest, rfl, hname, hd, hne⟩
        refine ⟨c :: name, d, rest, rfl, List.forall_mem_cons.mpr ⟨hc, hname⟩, hd, ?_⟩
        rwa [append_ofList_cons s c name]

theorem token_eq_rightBrace {u : Symbol} (h : u.token = .rightBrace) : u = .single '}' := by
  have hw := Symbol.source_token u
  rw [h] at hw
  cases u with
  | pair c => cases hw
  | opening => cases hw
  | single c => rw [show '}' = c from List.head_eq_of_cons_eq hw]

/-- After the arguments of a call only a brace can stand. -/
theorem exists_brace {outer : Draft} {frames : List Frame} {position n : Nat} {source : String}
    {piece : Piece Routine} {us : List Symbol}
    (h : Accepts registry config ⟨outer, frames, .closing position source piece⟩ n us) :
    ∃ rest, us = .single '}' :: rest := by
  cases us with
  | nil =>
    rcases h with ⟨r', ps, hr, hf⟩
    cases hr
    cases hf
  | cons u us =>
    by_cases hu : u.token = .rightBrace
    · exact ⟨us, by rw [token_eq_rightBrace hu]⟩
    · refine absurd h (not_accepts_of_error
        (e := .unexpectedCharacter u.token.firstChar .closingBrace n) ?_)
      rw [read_cons]
      simp only [Reader.step, Reader.stepClosing]

theorem accepts_of_arityError? {routine : Routine} {count position : Nat}
    (h : arityError? routine count position = none) : routine.signature.accepts count = true := by
  unfold arityError? at h
  simpa using h

theorem finishName_ok {r next : Reader} {position : Nat} {name : String}
    (h : r.finishName registry position name = .ok next) :
    registry.lookup name = none ∨
      ∃ routine, registry.lookup name = some routine ∧ routine.signature.accepts 0 = true := by
  cases hl : registry.lookup name with
  | none => exact Or.inl rfl
  | some routine =>
    refine Or.inr ⟨routine, rfl, ?_⟩
    cases ha : arityError? routine 0 position with
    | none => exact accepts_of_arityError? ha
    | some e => simp [Reader.finishName, hl, ha] at h

theorem openCall_ok {outer : Draft} {frames : List Frame} {n position paren : Nat} {name : String}
    {next : Reader}
    (h : Reader.openCall registry ⟨outer, frames, .naming n name⟩ position name paren = .ok next) :
    ∃ routine, registry.lookup name = some routine ∧ ∃ f, Begins f ∧ f.arguments = [] ∧
      f.routine = routine ∧ next = ⟨outer, f :: frames, .content⟩ := by
  cases hl : registry.lookup name with
  | none => simp [Reader.openCall, hl] at h
  | some routine =>
    simp only [Reader.openCall, hl, Except.ok.injEq] at h
    exact ⟨routine, rfl, _, ⟨rfl, rfl, rfl⟩, rfl, rfl, h.symm⟩

theorem finishArguments_ok {outer : Draft} {frames fs : List Frame} {f : Frame} {next : Reader}
    (h : Reader.finishArguments config ⟨outer, frames, .content⟩ f fs = .ok next) :
    f.routine.signature.accepts (f.finalArguments config).length = true ∧
      ∃ position source piece, next = ⟨outer, fs, .closing position source piece⟩ := by
  cases ha : arityError? f.routine (f.finalArguments config).length f.position with
  | none =>
    simp only [Reader.finishArguments, ha, Except.ok.injEq] at h
    exact ⟨accepts_of_arityError? ha, _, _, _, h.symm⟩
  | some e => simp [Reader.finishArguments, ha] at h

-- The induction is on the number of symbols that are left. Where one of the three hands over to
-- another without reading any, the second component goes down.
mutual

/-- From an opening on, a reader that gets to the end has read a reference. -/
theorem exists_reference {outer : Draft} {frames : List Frame} {n : Nat} {us : List Symbol}
    (h : Accepts registry config ⟨outer, frames, .content⟩ n (.opening :: us)) :
    ∃ vs rest p, .opening :: us = vs ++ rest ∧ rest.length ≤ us.length ∧
      Reference registry config (frames.length + 1) n vs p := by
  -- An opening that is nested too deep is refused at once.
  have hallowed : frames.length < config.maxNestingDepth := by
    by_cases hd : frames.length < config.maxNestingDepth
    · exact hd
    · exact absurd h (not_accepts_of_error (by rw [read_opening, if_neg hd]))
  have hname : Accepts registry config ⟨outer, frames, .naming n ""⟩ (n + 2) us :=
    h.of_eq (by rw [read_opening, if_pos hallowed])
  rcases exists_name hname with ⟨name, c, rest, rfl, hchars, hc, hne⟩
  rw [String.empty_append] at hne
  have hnamed : IsIdentifier name := ⟨by rintro rfl; exact hne rfl, hchars⟩
  have hafter := h.of_eq (read_opening_name hnamed outer frames hallowed n (.single c :: rest))
  rcases hc with rfl | rfl
  · -- A bare name is a variable unless it is registered.
    have hsplit : .opening :: (name.map .single ++ .single '}' :: rest) =
        (.opening :: name.map .single ++ [.single '}']) ++ rest := by simp
    have hlen : rest.length ≤ (name.map Symbol.single ++ .single '}' :: rest).length := by
      simp only [List.length_append, List.length_cons]
      omega
    rcases hafter.of_match (read_name_rightBrace _ _ _ _ _ _ hne) with ⟨next, hfinish, -⟩
    rcases finishName_ok hfinish with hl | ⟨routine, hl, ha⟩
    · exact ⟨_, rest, _, hsplit, hlen, .var hallowed hnamed hl⟩
    · exact ⟨_, rest, _, hsplit, hlen, .bareCall hallowed hnamed hl ha⟩
  · -- A name with parentheses is a call, read up to its `)` and the brace after that.
    rcases hafter.of_match (read_name_leftParen _ _ _ _ _ _ hne) with ⟨next, hopen, hrest⟩
    rcases openCall_ok hopen with ⟨routine, hl, f, hf, hargs, hroutine, rfl⟩
    rcases exists_arguments hf hrest with ⟨vs, rest', es, rfl, hes⟩
    rcases hes.read_append outer f frames rfl hf with ⟨g, hg, hread⟩
    obtain ⟨next, hfinish, hclosing⟩ :=
      (hrest.of_eq (hread _)).of_match (read_close _ _ _ _ _ hg.parens)
    rcases finishArguments_ok hfinish with ⟨haccepts, _, _, _, rfl⟩
    rcases exists_brace hclosing with ⟨rest'', rfl⟩
    rw [hg.routine, hroutine, hg.arguments, hargs, List.reverse_nil, List.nil_append] at haccepts
    refine ⟨.opening :: name.map .single ++ .single '(' :: vs ++ [.single ')', .single '}'], rest'',
      _, by simp, ?_, .call hallowed hnamed hl hes haccepts⟩
    simp only [List.length_append, List.length_cons]
    omega
termination_by (us.length + 1, 0)

/-- A reader that gets to the end from inside of an argument has read the rest of it. -/
theorem exists_argument {outer : Draft} {f : Frame} {fs : List Frame} {n : Nat} {us : List Symbol}
    (h : Accepts registry config ⟨outer, f :: fs, .content⟩ n us) :
    ∃ vs c rest ps, us = vs ++ .single c :: rest ∧ (c = ',' ∨ c = ')') ∧
      Argument registry config (fs.length + 1) f.parens.length n vs ps := by
  match us with
  | [] =>
    rcases h with ⟨r', ps, hr, hf⟩
    cases hr
    cases hf
  | .pair c :: us =>
    rcases exists_argument (h.of_eq (read_argument_pair ..)) with ⟨vs, d, rest, ps, rfl, hd, hvs⟩
    exact ⟨.pair c :: vs, d, rest, _, rfl, hd, .pair hvs⟩
  | .opening :: us =>
    rcases exists_reference h with ⟨vs, rest, p, hsplit, hlen, hvs⟩
    rw [hsplit] at h
    obtain ⟨ws, d, rest', ps, rfl, hd, hws⟩ :=
      exists_argument (h.of_eq (hvs.read_append outer (f :: fs) rest rfl))
    exact ⟨vs ++ ws, d, rest', _, by rw [hsplit, List.append_assoc], hd, .reference hvs hws⟩
  | .single c :: us =>
    by_cases hc : c ∈ ['(', ')', ',']
    · -- Whether these end the argument depends on the plain parentheses that are open.
      simp only [List.mem_cons, List.not_mem_nil, or_false] at hc
      rcases hc with rfl | rfl | rfl
      · obtain ⟨vs, d, rest, ps, rfl, hd, hvs⟩ :=
          exists_argument (h.of_eq (read_argument_leftParen ..))
        exact ⟨.single '(' :: vs, d, rest, _, rfl, hd, .leftParen hvs⟩
      · cases hp : f.parens with
        | nil => exact ⟨[], ')', us, [], rfl, Or.inr rfl, .nil⟩
        | cons p parens =>
          obtain ⟨vs, d, rest, ps, rfl, hd, hvs⟩ :=
            exists_argument (h.of_eq (read_argument_rightParen _ _ _ _ _ hp))
          exact ⟨.single ')' :: vs, d, rest, _, rfl, hd, .rightParen hvs⟩
      · cases hp : f.parens with
        | nil => exact ⟨[], ',', us, [], rfl, Or.inl rfl, .nil⟩
        | cons p parens =>
          obtain ⟨vs, d, rest, ps, rfl, hd, hvs⟩ :=
            exists_argument (h.of_eq (read_argument_comma _ _ _ _ _ hp))
          have hk : (f.write [','] [',']).parens.length = parens.length + 1 := by
            simp [Frame.write, hp]
          exact ⟨.single ',' :: vs, d, rest, _, rfl, hd, .comma (hk ▸ hvs)⟩
    · obtain ⟨vs, d, rest, ps, rfl, hd, hvs⟩ :=
        exists_argument (h.of_eq (read_argument_single _ _ _ _ _ hc))
      exact ⟨.single c :: vs, d, rest, _, rfl, hd, .single hc hvs⟩
termination_by (us.length, 1)

/-- A reader that gets to the end from the start of an argument has read it and those after it. -/
theorem exists_arguments {outer : Draft} {f : Frame} {fs : List Frame} {n : Nat} {us : List Symbol}
    (hf : Begins f) (h : Accepts registry config ⟨outer, f :: fs, .content⟩ n us) :
    ∃ vs rest es, us = vs ++ .single ')' :: rest ∧
      Arguments registry config (fs.length + 1) n vs es := by
  have hk : f.parens.length = 0 := by rw [hf.parens, List.length_nil]
  rcases exists_argument h with ⟨vs, c, rest, ps, rfl, hc, hvs⟩
  rw [hk] at hvs
  rcases hc with rfl | rfl
  · have hnext := (h.of_eq (hvs.read_append outer f fs _ rfl hk)).of_eq
      (read_separator _ _ _ _ _ rfl)
    rcases exists_arguments (begins_nextArgument _) hnext with ⟨ws, rest', es, rfl, hws⟩
    exact ⟨vs ++ .single ',' :: ws, rest', _, by simp, .more hvs hws⟩
  · exact ⟨vs, rest, _, rfl, .last hvs⟩
termination_by (us.length, 2)

end

/-- A reader that gets to the end outside of references has read a template. -/
theorem exists_template {outer : Draft} {n : Nat} {us : List Symbol}
    (h : Accepts registry config ⟨outer, [], .content⟩ n us) :
    ∃ ps, Template registry config n us ps := by
  match us with
  | [] => exact ⟨[], .nil⟩
  | .single c :: us =>
    rcases exists_template (h.of_eq (read_template_single ..)) with ⟨ps, hps⟩
    exact ⟨_, .single hps⟩
  | .pair c :: us =>
    by_cases hc : c = '$' ∧ us.head? = some (.single '{')
    · rcases hc with ⟨rfl, hus⟩
      rcases List.head?_eq_some_iff.mp hus with ⟨us, rfl⟩
      rcases exists_template (h.of_eq (read_template_escape ..)) with ⟨ps, hps⟩
      exact ⟨_, .escape hps⟩
    · have kept : c = '$' → us.head? ≠ some (.single '{') := fun hd hus => hc ⟨hd, hus⟩
      rcases exists_template (h.of_eq (read_template_pair _ _ _ kept)) with ⟨ps, hps⟩
      exact ⟨_, .pair kept hps⟩
  | .opening :: us =>
    rcases exists_reference h with ⟨vs, rest, p, hsplit, hlen, hvs⟩
    rw [hsplit] at h
    rcases exists_template (h.of_eq (hvs.read_append outer [] rest rfl)) with ⟨ps, hps⟩
    refine ⟨p :: ps, ?_⟩
    rw [hsplit]
    exact .reference hvs hps
termination_by us.length

/-- A text that is parsed is read to its end. -/
theorem accepts_of_parse {text : String} {us : List Symbol} {tree : Expression Routine}
    (hs : Splits text.toList us) (h : parse registry config text = .ok tree) :
    Accepts registry config {} 0 us := by
  have hrun : Reader.run registry config {} (Token.scan text) = read registry config {} 0 us :=
    run_ofChars hs {} 0
  unfold parse at h
  rw [hrun] at h
  cases hr : read registry config {} 0 us with
  | error e => simp [hr] at h
  | ok r =>
    cases hf : r.finish with
    | error e => simp [hr, hf] at h
    | ok ps => exact ⟨r, ps, hr, hf⟩

/-- What a text compiles to can be derived for it. -/
theorem derives_of_parse {text : String} {tree : Expression Routine}
    (h : parse registry config text = .ok tree) : Derives registry config text tree := by
  rcases exists_splits text.toList with ⟨us, hs⟩
  rcases exists_template (accepts_of_parse hs h) with ⟨ps, hps⟩
  have hderives : Derives registry config text ⟨text, mergeTexts ps, _⟩ := ⟨us, ps, hs, hps, rfl⟩
  rw [parse_eq_of_derives hderives] at h
  cases h
  exact hderives

theorem parse_eq_ok_iff {text : String} {tree : Expression Routine} :
    parse registry config text = .ok tree ↔ Derives registry config text tree :=
  ⟨derives_of_parse, parse_eq_of_derives⟩

theorem compile_eq_ok_iff_parse (engine : Engine) (text : String) (m : Machine)
    (e : LiveExpression) :
    (engine.compile text m).1 = .ok e ↔
      ∃ tree, parse engine.registry engine.config text = .ok tree ∧
        (tree.instantiate m.store).1 = e := by
  cases hp : parse engine.registry engine.config text with
  | error error => simp [Engine.compile, hp]
  | ok tree => simp [Engine.compile, hp, Machine.log, Machine.append]

/-- Compiling is deriving: a text is parsed to a tree exactly if the tree can be derived for it, at
most one tree can, and the text compiles to this tree with an instance for every call. -/
theorem compile_ok_iff_derives (engine : Engine) (text : String) :
    (∀ tree, parse engine.registry engine.config text = .ok tree ↔
      Derives engine.registry engine.config text tree) ∧
    (∀ tree tree', Derives engine.registry engine.config text tree →
      Derives engine.registry engine.config text tree' → tree = tree') ∧
    ∀ (m : Machine) (e : LiveExpression),
      (engine.compile text m).1 = .ok e ↔
        ∃ tree, Derives engine.registry engine.config text tree ∧
          (tree.instantiate m.store).1 = e := by
  refine ⟨fun tree => parse_eq_ok_iff, ?_, ?_⟩
  · intro tree tree' h h'
    have hp := parse_eq_of_derives h
    rw [parse_eq_of_derives h'] at hp
    exact (Except.ok.inj hp).symm
  · intro m e
    rw [compile_eq_ok_iff_parse]
    simp only [parse_eq_ok_iff]

end TextTemplate.Grammar
