import TextTemplate.Proofs.Blueprints
import TextTemplate.Proofs.Concatenation

/-!
# Arguments as texts of their own

An argument of a call is read like a text of its own, unless there is a backslash in it.

* `Splits.of_infix`: symbols from the middle of a text are those of what they spell.
* `Reference.arguments`, `Arguments.arguments` and `Argument.arguments`: the arguments in what is
  derived from symbols are derived from part of them.
* `Argument.template`: symbols without pairs that are an argument are a template as well.
* `Engine.compile_argument`: so the text of an argument compiles to the argument.
-/

namespace TextTemplate

namespace Grammar

variable {registry : Registry} {config : EngineConfig}

/-! ## Symbols from the middle of a text -/

theorem Splits.of_prefix {us vs : List Symbol} {cs : List Char} (h : Splits cs (us ++ vs)) :
    Splits (spelling us) us := by
  -- The next character, if there is one at all in the shorter text, is the same in the longer one.
  have hnext : ∀ {us : List Symbol} {cs : List Char}, Splits cs (us ++ vs) →
      ∀ d ∈ (spelling us).head?, d ∈ cs.head? := by
    intro us cs h d hd
    rw [← h.spelling_eq, spelling_append]
    rcases List.head?_eq_some_iff.mp hd with ⟨ds, hds⟩
    rw [hds]
    rfl
  induction us generalizing cs with
  | nil => exact .nil
  | cons u us ih =>
    cases h with
    | pair quotable rest => exact .pair quotable (ih rest)
    | opening rest => exact .opening (ih rest)
    | single unpaired unopened rest =>
      refine .single (fun hc d hd => unpaired hc d (hnext rest d hd)) (fun hc hd => ?_) (ih rest)
      exact unopened hc (hnext rest '{' hd)

theorem Splits.of_suffix {us vs : List Symbol} {cs : List Char} (h : Splits cs (us ++ vs)) :
    Splits (spelling vs) vs := by
  induction us generalizing cs with
  | nil =>
    have hspelling : spelling vs = cs := h.spelling_eq
    rw [hspelling]
    exact h
  | cons u us ih =>
    cases h with
    | pair _ rest => exact ih rest
    | opening rest => exact ih rest
    | single _ _ rest => exact ih rest

/-- Symbols from the middle of a text are the symbols of what they spell. -/
theorem Splits.of_infix {us vs : List Symbol} {cs : List Char} (h : Splits cs us)
    (hvs : vs <:+: us) : Splits (spelling vs) vs := by
  rcases hvs with ⟨before, after, rfl⟩
  exact h.of_prefix.of_suffix

theorem backslash_mem_of_pair {us : List Symbol} {c : Char} (h : .pair c ∈ us) :
    '\\' ∈ spelling us :=
  List.mem_flatMap.mpr ⟨_, h, List.mem_cons_self⟩

/-! ## Arguments in what is derived -/

open Expression

/-- An argument that starts at an offset is derived from some of the symbols, which stand next to
each other. -/
def DerivedWithin (registry : Registry) (config : EngineConfig) (us : List Symbol) (start : Nat)
    (a : Expression Routine) : Prop :=
  ∃ depth vs qs, vs <:+: us ∧ Argument registry config depth 0 start vs qs ∧
    a = argument config vs qs

/-- The arguments of references are derived from some of the symbols, from where they are placed. -/
def ArgumentsWithin (registry : Registry) (config : EngineConfig) (us : List Symbol)
    (nodes : List (Piece Routine)) : Prop :=
  ∀ node ∈ nodes, ∀ start a, (start, a) ∈ node.placedArguments →
    DerivedWithin registry config us start a

section Within

variable {us vs : List Symbol} {nodes nodes' : List (Piece Routine)} {start : Nat}
  {a : Expression Routine}

theorem DerivedWithin.mono (h : DerivedWithin registry config us start a) (hus : us <:+: vs) :
    DerivedWithin registry config vs start a := by
  rcases h with ⟨depth, ws, qs, hws, hderived, rfl⟩
  exact ⟨depth, ws, qs, hws.trans hus, hderived, rfl⟩

theorem ArgumentsWithin.mono (h : ArgumentsWithin registry config us nodes) (hus : us <:+: vs) :
    ArgumentsWithin registry config vs nodes :=
  fun node hn start a ha => (h node hn start a ha).mono hus

theorem ArgumentsWithin.append (h : ArgumentsWithin registry config us nodes)
    (h' : ArgumentsWithin registry config us nodes') :
    ArgumentsWithin registry config us (nodes ++ nodes') := by
  intro node hn
  rcases List.mem_append.mp hn with hn | hn
  · exact h node hn
  · exact h' node hn

end Within

theorem callArguments_eq (es : List (Expression Routine)) :
    callArguments es = [] ∨ callArguments es = es := by
  unfold callArguments
  split
  · split
    · exact .inl rfl
    · exact .inr rfl
  · exact .inr rfl

/-- The arguments of a call are derived one after the other. -/
theorem Arguments.placed : ∀ {depth n : Nat} {us : List Symbol} {es : List (Expression Routine)},
    Arguments registry config depth n us es → ∀ start a, (start, a) ∈ placedFrom n es →
    DerivedWithin registry config us start a
  | depth, n, us, _, @Arguments.last _ _ _ _ _ ps only, start, a, ha => by
    cases List.mem_singleton.mp ha
    exact ⟨depth, us, ps, List.infix_rfl, only, rfl⟩
  | depth, n, _, _, @Arguments.more _ _ _ _ us ps vs es first rest, start, a, ha => by
    rcases List.mem_cons.mp ha with heq | ha
    · cases heq
      exact ⟨depth, us, ps, (List.prefix_append us _).isInfix, first, rfl⟩
    · have hsize : (argument config us ps).raw.utf8ByteSize = width us := size_spelling us
      rw [hsize] at ha
      have hsuffix : vs <:+ us ++ .single ',' :: vs := ⟨us ++ [.single ','], by simp⟩
      exact (rest.placed start a ha).mono hsuffix.isInfix

-- The induction is on the derivation. The arguments of a call itself are derived within it, and so
-- are those of the references in them.
mutual

theorem Reference.arguments : ∀ {depth n : Nat} {us : List Symbol} {p : Piece Routine},
    Reference registry config depth n us p →
    ArgumentsWithin registry config us (nodesOfPieces [p])
  | _, _, _, _, .var _ _ _ => by
    intro node hn start a ha
    cases List.mem_singleton.mp hn
    cases ha
  | _, _, _, _, .bareCall _ _ _ _ => by
    intro node hn start a ha
    cases List.mem_singleton.mp hn
    cases ha
  | _, n, _, _, @Reference.call _ _ _ _ name _ us es _ _ _ arguments _ => by
    have hinfix : us <:+: .opening :: name.map .single ++ .single '(' :: us ++
        [.single ')', .single '}'] :=
      ⟨.opening :: name.map .single ++ [.single '('], [.single ')', .single '}'], by simp⟩
    have hopen : n + 2 + utf8Width name + 1 =
        n + ("$\x7b" ++ String.ofList name ++ "(").utf8ByteSize := by
      have hdollar : "$\x7b".utf8ByteSize = 2 := rfl
      have hparen : "(".utf8ByteSize = 1 := rfl
      simp only [String.utf8ByteSize_append, utf8ByteSize_ofList]
      omega
    intro node hn start a ha
    simp only [nodesOfPieces, List.append_nil, List.mem_cons] at hn
    rcases callArguments_eq es with hes | hes
    · rw [hes] at hn
      rcases hn with rfl | hn
      · cases ha
      · cases hn
    · rw [hes] at hn
      rcases hn with rfl | hn
      · rw [Piece.placedArguments, ← hopen] at ha
        exact (arguments.placed start a ha).mono hinfix
      · exact arguments.arguments.mono hinfix node hn start a ha

theorem Arguments.arguments : ∀ {depth n : Nat} {us : List Symbol}
    {es : List (Expression Routine)}, Arguments registry config depth n us es →
    ArgumentsWithin registry config us (nodesOfArguments es)
  | _, _, us, _, @Arguments.last _ _ _ _ _ ps only => by
    rw [nodesOfArguments, nodes_eq, argument, nodesOfPieces_mergeTexts]
    exact only.arguments.append nofun
  | _, _, _, _, @Arguments.more _ _ _ _ us ps vs es first rest => by
    have hsuffix : vs <:+ us ++ .single ',' :: vs := ⟨us ++ [.single ','], by simp⟩
    rw [nodesOfArguments, nodes_eq, argument, nodesOfPieces_mergeTexts]
    exact (first.arguments.mono (List.prefix_append us _).isInfix).append
      (rest.arguments.mono hsuffix.isInfix)

theorem Argument.arguments : ∀ {depth k n : Nat} {us : List Symbol} {ps : List (Piece Routine)},
    Argument registry config depth k n us ps →
    ArgumentsWithin registry config us (nodesOfPieces ps)
  | _, _, _, _, _, .nil => nofun
  | _, _, _, _, _, .pair rest => rest.arguments.mono (List.suffix_cons _ _).isInfix
  | _, _, _, _, _, .leftParen rest => rest.arguments.mono (List.suffix_cons _ _).isInfix
  | _, _, _, _, _, .rightParen rest => rest.arguments.mono (List.suffix_cons _ _).isInfix
  | _, _, _, _, _, .comma rest => rest.arguments.mono (List.suffix_cons _ _).isInfix
  | _, _, _, _, _, .single _ rest => rest.arguments.mono (List.suffix_cons _ _).isInfix
  | _, _, _, _, _, .reference inner rest => by
    rw [nodesOfPieces_cons]
    exact (inner.arguments.mono (List.prefix_append _ _).isInfix).append
      (rest.arguments.mono (List.suffix_append _ _).isInfix)

end

theorem Template.arguments {n : Nat} {us : List Symbol} {ps : List (Piece Routine)}
    (h : Template registry config n us ps) :
    ArgumentsWithin registry config us (nodesOfPieces ps) := by
  induction h with
  | nil => exact nofun
  | escape _ ih => exact ih.mono (List.suffix_cons _ _).isInfix
  | pair _ _ ih => exact ih.mono (List.suffix_cons _ _).isInfix
  | single _ ih => exact ih.mono (List.suffix_cons _ _).isInfix
  | reference inner _ ih =>
    rw [nodesOfPieces_cons]
    exact (inner.arguments.mono (List.prefix_append _ _).isInfix).append
      (ih.mono (List.suffix_append _ _).isInfix)

/-! ## An argument is a template -/

-- Only the depth of references changes, and it gets no larger.
mutual

theorem Reference.shallower : ∀ {depth depth' n : Nat} {us : List Symbol} {p : Piece Routine},
    Reference registry config depth n us p → depth' ≤ depth →
    Reference registry config depth' n us p
  | _, _, _, _, _, .var allowed named unknown, h => .var (Nat.le_trans h allowed) named unknown
  | _, _, _, _, _, .bareCall allowed named known accepted, h =>
    .bareCall (Nat.le_trans h allowed) named known accepted
  | _, _, _, _, _, .call allowed named known arguments accepted, h =>
    .call (Nat.le_trans h allowed) named known (arguments.shallower h) accepted

theorem Arguments.shallower : ∀ {depth depth' n : Nat} {us : List Symbol}
    {es : List (Expression Routine)}, Arguments registry config depth n us es → depth' ≤ depth →
    Arguments registry config depth' n us es
  | _, _, _, _, _, .last only, h => .last (only.shallower h)
  | _, _, _, _, _, .more first rest, h => .more (first.shallower h) (rest.shallower h)

theorem Argument.shallower : ∀ {depth depth' k n : Nat} {us : List Symbol}
    {ps : List (Piece Routine)}, Argument registry config depth k n us ps → depth' ≤ depth →
    Argument registry config depth' k n us ps
  | _, _, _, _, _, _, .nil, _ => .nil
  | _, _, _, _, _, _, .pair rest, h => .pair (rest.shallower h)
  | _, _, _, _, _, _, .leftParen rest, h => .leftParen (rest.shallower h)
  | _, _, _, _, _, _, .rightParen rest, h => .rightParen (rest.shallower h)
  | _, _, _, _, _, _, .comma rest, h => .comma (rest.shallower h)
  | _, _, _, _, _, _, .single ordinary rest, h => .single ordinary (rest.shallower h)
  | _, _, _, _, _, _, .reference inner rest, h =>
    .reference (inner.shallower (Nat.add_le_add_right h 1)) (rest.shallower h)

end

/-- Outside of references, commas and parentheses stand for themselves, which is what they do in an
argument as well, and only pairs are read in another way. -/
theorem Argument.template : ∀ {depth k n : Nat} {us : List Symbol} {ps : List (Piece Routine)},
    Argument registry config depth k n us ps → (∀ c, .pair c ∉ us) →
    Template registry config n us ps
  | _, _, _, _, _, .nil, _ => .nil
  | _, _, _, _, _, .pair _, h => absurd List.mem_cons_self (h _)
  | _, _, _, _, _, .leftParen rest, h =>
    .single (rest.template fun c hc => h c (List.mem_cons_of_mem _ hc))
  | _, _, _, _, _, .rightParen rest, h =>
    .single (rest.template fun c hc => h c (List.mem_cons_of_mem _ hc))
  | _, _, _, _, _, .comma rest, h =>
    .single (rest.template fun c hc => h c (List.mem_cons_of_mem _ hc))
  | _, _, _, _, _, .single _ rest, h =>
    .single (rest.template fun c hc => h c (List.mem_cons_of_mem _ hc))
  | _, _, _, _, _, .reference inner rest, h =>
    .reference (inner.shallower (Nat.le_add_left 1 _))
      (rest.template fun c hc => h c (List.mem_append_right _ hc))

/-! ## Parsing -/

theorem Template.readAll_eq {n : Nat} {us : List Symbol} {ps : List (Piece Routine)}
    (h : Template registry config n us ps) :
    readAll registry config {} n us = .ok (mergeTexts ps) := by
  have hread := h.read_eq {}
  unfold read at hread
  rw [readAll, Reader.complete, hread, ← finish_foldl_put_empty]
  rfl

/-- The text of an argument without a backslash parses to the argument, as it would be at the start
of a text. -/
theorem parse_argument {text : String} {tree : Expression Routine}
    (h : parse registry config text = .ok tree) {node : Piece Routine} (hn : node ∈ tree.nodes)
    {start : Nat} {a : Expression Routine} (ha : (start, a) ∈ node.placedArguments)
    (hb : '\\' ∉ a.raw.toList) :
    ∃ inner, parse registry config a.raw = .ok inner ∧ inner.transfer id start = a := by
  rcases derives_of_parse h with ⟨us, ps, hs, ht, rfl⟩
  rw [nodes_eq, nodesOfPieces_mergeTexts] at hn
  rcases ht.arguments node hn start a ha with ⟨depth, vs, qs, hvs, hargument, rfl⟩
  have hraw : (argument config vs qs).raw.toList = spelling vs := String.toList_ofList
  have hpairs : ∀ c, .pair c ∉ vs := by
    intro c hc
    rw [hraw] at hb
    exact hb (backslash_mem_of_pair hc)
  -- The symbols of the argument are those of its text, and are read at its start as they are here.
  have hread := (hargument.template hpairs).readAll_eq
  rw [readAll_add] at hread
  cases hr : readAll registry config {} 0 vs with
  | error e =>
    rw [hr] at hread
    cases hread
  | ok pieces =>
    rw [hr] at hread
    have hpieces : transferPieces id start pieces = mergeTexts qs := Except.ok.inj hread
    refine ⟨⟨(argument config vs qs).raw, pieces, Cache.fresh config.staticCaching⟩, ?_, ?_⟩
    · have hsplits : Splits (argument config vs qs).raw.toList vs := by
        rw [hraw]
        exact hs.of_infix hvs
      rw [parse_eq_readAll hsplits, hr]
      rfl
    · simp only [Expression.transfer, hpieces, id, argument]

end Grammar

/-! ## Compilation -/

section Callees

open Expression

variable {α : Type u} {n : Nat} {a : Expression α}

theorem callees_sublist_of_placed {es : List (Expression α)} (h : (n, a) ∈ placedFrom k es) :
    a.callees.Sublist (calleesOfArguments es) := by
  induction es generalizing k with
  | nil => cases h
  | cons e es ih =>
    rcases List.mem_cons.mp h with heq | h
    · cases heq
      exact List.sublist_append_left _ _
    · exact (ih h).trans (List.sublist_append_right _ _)

mutual

/-- What stands at the calls of an argument stands at calls of the tree. -/
theorem callees_sublist (ha : (n, a) ∈ node.placedArguments) : (pieces : List (Piece α)) →
    node ∈ nodesOfPieces pieces → a.callees.Sublist (calleesOfPieces pieces)
  | [], h => by cases h
  | .text _ :: pieces, h => callees_sublist ha pieces h
  | .var _ _ :: pieces, h => by
    rcases List.mem_cons.mp h with rfl | h
    · cases ha
    · exact callees_sublist ha pieces h
  | .call _ _ arguments _ :: pieces, h => by
    simp only [nodesOfPieces, List.mem_cons, List.mem_append] at h
    rw [calleesOfPieces]
    rcases h with rfl | h | h
    · exact (callees_sublist_of_placed ha).trans (List.sublist_append_left _ _)
    · exact (callees_sublist_arguments ha arguments h).trans (List.sublist_append_left _ _)
    · exact ((callees_sublist ha pieces h).cons _).trans (List.sublist_append_right _ _)

theorem callees_sublist_arguments (ha : (n, a) ∈ node.placedArguments) :
    (es : List (Expression α)) → node ∈ nodesOfArguments es →
    a.callees.Sublist (calleesOfArguments es)
  | [], h => by cases h
  | ⟨_, pieces, _⟩ :: es, h => by
    rw [calleesOfArguments]
    rcases List.mem_append.mp h with h | h
    · exact (callees_sublist ha pieces h).trans (List.sublist_append_left _ _)
    · exact (callees_sublist_arguments ha es h).trans (List.sublist_append_right _ _)

end

theorem callees_sublist_of_mem_nodes {e : Expression α} {node : Piece α} (hn : node ∈ e.nodes)
    (ha : (n, a) ∈ node.placedArguments) : a.callees.Sublist e.callees := by
  cases e with
  | mk raw pieces cache => exact callees_sublist ha pieces hn

theorem nodup_callees_instantiate (e : Expression Routine) (store : Store) :
    (e.instantiate store).1.callees.Nodup := by
  rw [(callees_instantiate e store).1]
  exact List.nodup_range'

end Callees

/-- The raw text of an argument is written where the argument is placed. -/
theorem PiecesLaidOut.writtenAt_argument {α : Type u} {text : String} {pieces : List (Piece α)}
    (h : PiecesLaidOut 0 text pieces) {node : Piece α}
    (hn : node ∈ Expression.nodesOfPieces pieces) {start : Nat} {a : Expression α}
    (ha : (start, a) ∈ node.placedArguments) : WrittenAt text start a.raw := by
  rcases h.nodes _ node hn with ⟨offset, source, hw, hnode⟩
  rw [Nat.zero_add] at hnode
  rcases hnode.arguments ha with ⟨-, k, hk, rfl⟩
  exact hw.trans hk

/-- Arguments are compiled like texts of their own. An argument of a call, at any depth, that is
written without a backslash is written where it starts in the text; this part of the text, compiled
by itself in any machine, has the blueprint of the argument, but for the positions, which count from
its start. In both of them every call has an instance of its own. -/
theorem Engine.compile_argument {engine : Engine} {text : String} {m : Machine}
    {e : LiveExpression} (h : (engine.compile text m).1 = .ok e) {node : Piece InstanceId}
    (hn : node ∈ e.nodes) {start : Nat} {a : LiveExpression}
    (ha : (start, a) ∈ node.placedArguments) (hb : '\\' ∉ a.raw.toList) :
    WrittenAt text start a.raw ∧ a.callees.Nodup ∧
      ∀ m', ∃ inner, (engine.compile a.raw m').1 = .ok inner ∧ inner.callees.Nodup ∧
        a.blueprint (engine.compile text m).2.store =
          (inner.blueprint (engine.compile a.raw m').2.store).transfer id start := by
  rcases (Grammar.compile_eq_ok_iff_parse engine text m e).mp h with ⟨tree, hp, rfl⟩
  have hstore := (compile_eq_of_parse hp m).2
  -- The blueprint of the argument is the parsed argument with every routine in its initial state.
  have hnew := Expression.mem_rename (tree.instantiate m.store).2.content? hn ha
  have hblueprint := Expression.blueprint_instantiate tree m.store
  rw [Expression.blueprint] at hblueprint
  rw [hblueprint] at hnew
  rcases Expression.exists_of_rename _ hnew.1 hnew.2 with ⟨node₀, hn₀, a₀, ha₀, hrename⟩
  have hraw : a₀.raw = a.raw := by
    rw [← Expression.raw_rename (fun routine => some routine.content) a₀, hrename,
      Expression.raw_rename]
  rw [← hraw] at hb ⊢
  rcases Grammar.parse_argument hp hn₀ ha₀ hb with ⟨inner, hinner, htransfer⟩
  refine ⟨?_, ?_, ?_⟩
  · rw [Expression.nodes_eq] at hn₀
    exact (laidOut_of_parse hp).writtenAt_argument hn₀ ha₀
  · exact (callees_sublist_of_mem_nodes hn ha).nodup (nodup_callees_instantiate tree m.store)
  · intro m'
    rcases compile_eq_of_parse hinner m' with ⟨hok, hstore'⟩
    refine ⟨_, hok, nodup_callees_instantiate inner m'.store, ?_⟩
    rw [hstore, hstore', Expression.blueprint_instantiate, Expression.blueprint, ← hrename,
      ← htransfer]
    exact congrArg Prod.fst (Grammar.relabel_transfer _ start inner ())

/-- A call in the argument of a call, after a comma in plain parentheses. -/
def tallyInTally : String := "é$\x7btally(a(,)$\x7btally($\x7bv\x7d)\x7d)\x7d"

open Session in
theorem Engine.compile_argument_tallyInTally :
    ∃ a inner : LiveExpression,
      a.raw = "a(,)$\x7btally($\x7bv\x7d)\x7d" ∧ WrittenAt tallyInTally 10 a.raw ∧
        (tallyEngine.compile a.raw { entropy := ⟨0⟩ }).1 = .ok inner ∧
        a.blueprint (tallyEngine.compile tallyInTally { entropy := ⟨0⟩ }).2.store =
          (inner.blueprint (tallyEngine.compile a.raw { entropy := ⟨0⟩ }).2.store).transfer id
            10 := by
  let inside : Expression Routine := ⟨"$\x7bv\x7d", [.var "v" 22], .vacant⟩
  let argument : Expression Routine := ⟨"a(,)$\x7btally($\x7bv\x7d)\x7d",
    [.text "a(,)", .call "tally" Library.Samples.tally [inside] 14], .vacant⟩
  have hp : parse tallyEngine.registry tallyEngine.config tallyInTally = .ok ⟨tallyInTally,
      [.text "é", .call "tally" Library.Samples.tally [argument] 2], .vacant⟩ := rfl
  have h := (Grammar.compile_eq_ok_iff_parse tallyEngine _ { entropy := ⟨0⟩ } _).mpr ⟨_, hp, rfl⟩
  have hb : '\\' ∉ argument.raw.toList := by
    show '\\' ∉ ("a(,)$\x7btally($\x7bv\x7d)\x7d" : String).toList
    decide
  obtain ⟨hwritten, -, hinner⟩ := compile_argument h List.mem_cons_self
    (show (10, _) ∈ _ from List.mem_cons_self) hb
  rcases hinner { entropy := ⟨0⟩ } with ⟨inner, hok, -, hblueprint⟩
  exact ⟨_, inner, rfl, hwritten, hok, hblueprint⟩

end TextTemplate
