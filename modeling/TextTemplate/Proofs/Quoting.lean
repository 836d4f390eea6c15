import TextTemplate.Proofs.PlainText
import TextTemplate.Proofs.Renaming
import TextTemplate.Proofs.Rendering

/-!
# Quoting

Any text in which parentheses balance can be an argument of a call, if it is quoted.

* `Grammar.quote` puts a backslash in front of every character that a backslash can quote, and
  `Grammar.quotedCall` is a call with quoted arguments.
* `Grammar.Argument.quoted`: a quoted text is an argument, and stands for the text.
* `Engine.compile_quotedCall`: the call compiles, and executes its routine with the texts.
-/

namespace TextTemplate

/-! ## Calls with plain arguments -/

theorem contribution_text (key : String) (position : Nat) (result : Except InvocationError String)
    (m m' : Machine) :
    (contribution key position result m).1 = (contribution key position result m').1 := by
  cases result <;> rfl

/-- To report a failure is no execution. -/
theorem executions_contribution (key : String) (position : Nat)
    (result : Except InvocationError String) (m : Machine) :
    (contribution key position result m).2.executions = m.executions := by
  cases result with
  | ok text => rfl
  | error e => exact m.executions_append_logged [failureRecord key position e]

open Expression in
/-- A call whose arguments are pure literals executes its instance with their plain texts. -/
theorem Expression.evaluate_call {raw key : String} {id : InstanceId}
    {arguments : List LiveExpression} {position : Nat} {cache : Cache}
    (h : Sound ⟨raw, [.call key id arguments position], cache⟩)
    (hp : ∀ e ∈ arguments, e.isPureLiteral = true) (scene : Scene) {m : Machine} {inst : Instance}
    (hi : m.store.get? id = some inst) {texts : List String}
    (htexts : arguments.map (fun e => plainText e.pieces) = texts) :
    (evaluate scene ⟨raw, [.call key id arguments position], cache⟩ m).1 =
        (contribution key position (m.execute scene id texts).1 m).1 ∧
      (evaluate scene ⟨raw, [.call key id arguments position], cache⟩ m).2.2.executions =
        m.executions ++ [(id, texts)] := by
  have hcache : cache.text? = none := by
    cases cache with
    | filled text => cases (h.1 text rfl).1
    | disabled | vacant => rfl
  -- The arguments leave a machine in which the execution is the same.
  rcases evaluateArguments_of_isPureLiteral h.2.1 hp scene m with ⟨hvalues, harguments⟩
  rw [htexts] at hvalues
  rcases harguments.execute scene id texts with ⟨hresult, hexecuted⟩
  have hvalue : (evaluatePieces scene [.call key id arguments position] m).1 =
      (contribution key position (m.execute scene id texts).1 m).1 := by
    simp only [evaluatePieces, hvalues, hresult, String.append_empty]
    exact contribution_text key position _ _ m
  have hexecutions : (evaluatePieces scene [.call key id arguments position] m).2.2.executions =
      m.executions ++ [(id, texts)] := by
    simp only [evaluatePieces, hvalues]
    rw [executions_contribution, hexecuted.executions, Machine.executions_execute hi]
  rw [evaluate_of_unfilled scene raw _ hcache]
  exact ⟨hvalue, (Machine.alike_remember raw _ _ _ _).executions.trans hexecutions⟩

namespace Grammar

/-! ## Quoted texts -/

/-- A character with a backslash in front if that can quote it. -/
def quoteChar (c : Char) : List Char := if Token.isQuotable c then ['\\', c] else [c]

/-- Puts a backslash in front of every backslash, comma and `$`. -/
def quote (s : String) : String := String.ofList (s.toList.flatMap quoteChar)

/-- A call with these texts as its arguments. -/
def quotedCall (key : String) (ss : List String) : String :=
  "$\x7b" ++ key ++ "(" ++ ",".intercalate (ss.map quote) ++ ")\x7d"

/-- Nowhere in a text have more parentheses been closed than opened, and at its end none is open. -/
def Balanced (cs : List Char) : Prop :=
  (∀ i ≤ cs.length, (cs.take i).count ')' ≤ (cs.take i).count '(') ∧ cs.count ')' = cs.count '('

instance (cs : List Char) : Decidable (Balanced cs) := inferInstanceAs (Decidable (_ ∧ _))

/-- The same of a text in front of which `k` parentheses are open. -/
def BalancedFrom (k : Nat) (cs : List Char) : Prop :=
  (∀ i ≤ cs.length, (cs.take i).count ')' ≤ k + (cs.take i).count '(') ∧
    cs.count ')' = k + cs.count '('

theorem Balanced.from_zero {cs : List Char} (h : Balanced cs) : BalancedFrom 0 cs := by
  simpa [BalancedFrom, Balanced] using h

namespace BalancedFrom

variable {k : Nat} {c : Char} {cs : List Char}

theorem eq_zero (h : BalancedFrom k []) : k = 0 := by
  have htotal := h.2
  simp only [List.count_nil] at htotal
  omega

/-- A parenthesis that is opened has to be closed after it. -/
theorem leftParen (h : BalancedFrom k ('(' :: cs)) : BalancedFrom (k + 1) cs := by
  constructor
  · intro i hi
    have hprefix := h.1 (i + 1) (Nat.succ_le_succ hi)
    simp at hprefix
    omega
  · have htotal := h.2
    simp at htotal
    omega

/-- A parenthesis that is closed has been opened before. -/
theorem rightParen (h : BalancedFrom k (')' :: cs)) : ∃ j, k = j + 1 ∧ BalancedFrom j cs := by
  have hfirst := h.1 1 (Nat.succ_le_succ (Nat.zero_le _))
  simp at hfirst
  refine ⟨k - 1, by omega, ?_, ?_⟩
  · intro i hi
    have hprefix := h.1 (i + 1) (Nat.succ_le_succ hi)
    simp at hprefix
    omega
  · have htotal := h.2
    simp at htotal
    omega

theorem other (h : BalancedFrom k (c :: cs)) (hopen : c ≠ '(') (hclose : c ≠ ')') :
    BalancedFrom k cs := by
  constructor
  · intro i hi
    have hprefix := h.1 (i + 1) (Nat.succ_le_succ hi)
    simpa [List.count_cons, hopen, hclose] using hprefix
  · have htotal := h.2
    simpa [List.count_cons, hopen, hclose] using htotal

end BalancedFrom

/-! ## The symbols of quoted texts -/

/-- The symbol that a character is when it is quoted. -/
def quotedSymbol (c : Char) : Symbol := if Token.isQuotable c then .pair c else .single c

/-- The symbols of a quoted text. -/
def quotedSymbols (s : String) : List Symbol := s.toList.map quotedSymbol

/-- The symbols of quoted texts with commas between them. -/
def quotedArguments : List String → List Symbol
  | [] => []
  | [s] => quotedSymbols s
  | s :: s' :: ss => quotedSymbols s ++ .single ',' :: quotedArguments (s' :: ss)

theorem written_quotedSymbol (c : Char) : (quotedSymbol c).written = quoteChar c := by
  unfold quotedSymbol quoteChar
  split <;> rfl

theorem spelling_quotedSymbols (s : String) :
    String.ofList (spelling (quotedSymbols s)) = quote s := by
  rw [quote, spelling, quotedSymbols, List.flatMap_map]
  simp only [written_quotedSymbol]

theorem spelling_quotedArguments (ss : List String) :
    String.ofList (spelling (quotedArguments ss)) = ",".intercalate (ss.map quote) := by
  induction ss with
  | nil => rfl
  | cons s ss ih =>
    cases ss with
    | nil =>
      rw [List.map_singleton, String.intercalate_singleton, quotedArguments, spelling_quotedSymbols]
    | cons s' ss =>
      rw [List.map_cons, String.intercalate_cons_of_ne_nil (by simp), ← ih, quotedArguments,
        spelling_append, spelling_cons, String.ofList_append, String.ofList_append,
        spelling_quotedSymbols, String.append_assoc]
      rfl

/-- A symbol that is read in the same way whatever stands after it. -/
def Symbol.IsClear : Symbol → Prop
  | pair c => Token.isQuotable c = true
  | opening => True
  | single c => c ≠ '\\' ∧ c ≠ '$'

theorem splits_spelling {us : List Symbol} (h : ∀ u ∈ us, u.IsClear) : Splits (spelling us) us := by
  induction us with
  | nil => exact .nil
  | cons u us ih =>
    rcases List.forall_mem_cons.mp h with ⟨hu, hus⟩
    cases u with
    | pair c => exact .pair hu (ih hus)
    | opening => exact .opening (ih hus)
    | single c => exact .single (fun hc => absurd hc hu.1) (fun hc => absurd hc hu.2) (ih hus)

theorem isClear_quotedSymbol (c : Char) : (quotedSymbol c).IsClear := by
  unfold quotedSymbol
  split
  · assumption
  · rename_i hc
    constructor
    · rintro rfl
      exact hc rfl
    · rintro rfl
      exact hc rfl

theorem isClear_quotedArguments (ss : List String) : ∀ u ∈ quotedArguments ss, u.IsClear := by
  have hquoted : ∀ s, ∀ u ∈ quotedSymbols s, u.IsClear := by
    intro s u hu
    rcases List.mem_map.mp hu with ⟨c, -, rfl⟩
    exact isClear_quotedSymbol c
  induction ss with
  | nil => exact fun u hu => absurd hu List.not_mem_nil
  | cons s ss ih =>
    cases ss with
    | nil => exact hquoted s
    | cons s' ss =>
      intro u hu
      rcases List.mem_append.mp hu with hu | hu
      · exact hquoted s u hu
      · rcases List.mem_cons.mp hu with rfl | hu
        · exact ⟨by decide, by decide⟩
        · exact ih u hu

/-! ## What quoted texts stand for -/

variable {registry : Registry} {config : EngineConfig} {depth n : Nat}

/-- The pieces of a quoted text, one for each character. -/
def quotedPieces (s : String) : List (Piece Routine) := s.toList.map fun c => plain [c]

/-- The argument that a quoted text stands for. -/
def quotedArgument (config : EngineConfig) (s : String) : Expression Routine :=
  argument config (quotedSymbols s) (quotedPieces s)

/-- Where `k` parentheses are open, a text that closes them is the rest of an argument. -/
theorem Argument.of_balancedFrom {k : Nat} {cs : List Char} (h : BalancedFrom k cs) :
    Argument registry config depth k n (cs.map quotedSymbol) (cs.map fun c => plain [c]) := by
  induction cs generalizing k n with
  | nil =>
    rw [h.eq_zero]
    exact .nil
  | cons c cs ih =>
    by_cases hquotable : Token.isQuotable c = true
    · have hsymbol : quotedSymbol c = .pair c := if_pos hquotable
      have hopen : c ≠ '(' := by
        rintro rfl
        cases hquotable
      have hclose : c ≠ ')' := by
        rintro rfl
        cases hquotable
      rw [List.map_cons, hsymbol]
      exact .pair (ih (h.other hopen hclose))
    · have hsymbol : quotedSymbol c = .single c := if_neg hquotable
      rw [List.map_cons, hsymbol]
      by_cases hopen : c = '('
      · subst hopen
        exact .leftParen (ih h.leftParen)
      by_cases hclose : c = ')'
      · subst hclose
        rcases h.rightParen with ⟨j, rfl, hcs⟩
        exact .rightParen (ih hcs)
      · have hcomma : c ≠ ',' := by
          rintro rfl
          exact hquotable rfl
        exact .single (by simp [hopen, hclose, hcomma]) (ih (h.other hopen hclose))

theorem Argument.quoted {s : String} (h : Balanced s.toList) :
    Argument registry config depth 0 n (quotedSymbols s) (quotedPieces s) :=
  .of_balancedFrom h.from_zero

theorem Arguments.quoted {ss : List String} (hne : ss ≠ [])
    (h : ∀ s ∈ ss, Balanced s.toList) :
    Arguments registry config depth n (quotedArguments ss) (ss.map (quotedArgument config)) := by
  induction ss generalizing n with
  | nil => exact absurd rfl hne
  | cons s ss ih =>
    rcases List.forall_mem_cons.mp h with ⟨hs, hss⟩
    cases ss with
    | nil => exact .last (.quoted hs)
    | cons s' ss => exact .more (.quoted hs) (ih (List.cons_ne_nil _ _) hss)

theorem quote_eq_empty {s : String} (h : quote s = "") : s = "" := by
  have hchars : s.toList.flatMap quoteChar = [] := by
    rw [← String.toList_ofList (l := s.toList.flatMap quoteChar), ← quote, h]
    rfl
  have hs : s.toList = [] := by
    rw [List.flatMap_eq_nil_iff] at hchars
    refine List.eq_nil_iff_forall_not_mem.mpr ?_
    intro c hc
    have hempty := hchars c hc
    unfold quoteChar at hempty
    split at hempty <;> cases hempty
  rw [← String.ofList_toList (s := s), hs, String.ofList_nil]

/-- Texts are the arguments of a call if they are quoted. A single empty one cannot be told from no
argument. -/
theorem exists_arguments_quoted {ss : List String} (hss : ss ≠ [""])
    (h : ∀ s ∈ ss, Balanced s.toList) :
    ∃ es, Arguments registry config depth n (quotedArguments ss) es ∧
      callArguments es = ss.map (quotedArgument config) := by
  cases ss with
  | nil => exact ⟨_, .last .nil, rfl⟩
  | cons s ss =>
    refine ⟨_, .quoted (List.cons_ne_nil _ _) h, ?_⟩
    cases ss with
    | cons s' ss => rfl
    | nil =>
      have hs : (quotedArgument config s).raw ≠ "" := by
        rw [quotedArgument, argument, spelling_quotedSymbols]
        intro hempty
        exact hss (by rw [quote_eq_empty hempty])
      rw [List.map_singleton, callArguments, if_neg hs]

/-- The symbols of a call with quoted arguments. -/
def quotedCallSymbols (key : String) (ss : List String) : List Symbol :=
  .opening :: key.toList.map .single ++ .single '(' :: quotedArguments ss ++
    [.single ')', .single '}']

theorem splits_quotedCall {key : String} (hkey : IsIdentifier key.toList) (ss : List String) :
    Splits (quotedCall key ss).toList (quotedCallSymbols key ss) := by
  have htext : quotedCall key ss = String.ofList (spelling (quotedCallSymbols key ss)) := by
    rw [quotedCallSymbols, spelling_call, spelling_quotedArguments, String.ofList_toList,
      quotedCall]
  have hname : ∀ u ∈ key.toList.map Symbol.single, u.IsClear := by
    intro u hu
    rcases List.mem_map.mp hu with ⟨c, hc, rfl⟩
    have hreserved := hkey.2 c hc
    simp only [reserved, List.mem_cons, not_or] at hreserved
    exact ⟨hreserved.2.2.2.2.2.2.1, hreserved.1⟩
  have hmarks : ∀ c ∈ ['(', ')', '}'], (Symbol.single c).IsClear := by
    simp [Symbol.IsClear]
  rw [htext, String.toList_ofList]
  apply splits_spelling
  intro u hu
  simp only [quotedCallSymbols, List.cons_append, List.mem_cons, List.mem_append,
    List.not_mem_nil, or_false] at hu
  rcases hu with rfl | (hu | rfl | hu) | rfl | rfl
  · trivial
  · exact hname u hu
  · exact hmarks '(' (by decide)
  · exact isClear_quotedArguments ss u hu
  · exact hmarks ')' (by decide)
  · exact hmarks '}' (by decide)

/-- The tree of a call with quoted arguments. -/
def quotedTree (config : EngineConfig) (key : String) (routine : Routine) (ss : List String) :
    Expression Routine :=
  ⟨quotedCall key ss, [.call key routine (ss.map (quotedArgument config)) 0],
    .fresh config.staticCaching⟩

/-- A call with quoted arguments is parsed to a call with these arguments. -/
theorem parse_quotedCall {key : String} {routine : Routine} {ss : List String}
    (hkey : IsIdentifier key.toList) (hknown : registry.lookup key = some routine)
    (hss : ss ≠ [""]) (h : ∀ s ∈ ss, Balanced s.toList)
    (haccepts : routine.signature.accepts ss.length = true) (hdepth : 1 ≤ config.maxNestingDepth) :
    parse registry config (quotedCall key ss) = .ok (quotedTree config key routine ss) := by
  have hwritten : ∃ es, Arguments registry config 1 (0 + 2 + utf8Width key.toList + 1)
      (quotedArguments ss) es ∧ callArguments es = ss.map (quotedArgument config) :=
    exists_arguments_quoted hss h
  rcases hwritten with ⟨es, hes, hcall⟩
  have hlookup : registry.lookup (String.ofList key.toList) = some routine := by
    rw [String.ofList_toList]
    exact hknown
  have hcount : routine.signature.accepts (callArguments es).length = true := by
    rw [hcall, List.length_map]
    exact haccepts
  have href : Reference registry config 1 0 (quotedCallSymbols key ss) _ :=
    .call hdepth hkey hlookup hes hcount
  rw [hcall, String.ofList_toList] at href
  have htemplate := Template.reference href .nil
  rw [List.append_nil] at htemplate
  exact parse_eq_of_derives ⟨_, _, splits_quotedCall hkey ss, htemplate, rfl⟩

theorem isPureLiteral_quotedArgument (config : EngineConfig) (s : String) :
    (quotedArgument config s).isPureLiteral = true := by
  have hpieces : Expression.allPlain (quotedPieces s) = true := by
    simp [Expression.allPlain, quotedPieces, plain, Piece.isDynamic]
  exact (Expression.allPlain_mergeTexts (quotedPieces s)).trans hpieces

theorem plainText_quotedArgument (config : EngineConfig) (s : String) :
    Expression.plainText (quotedArgument config s).pieces = s := by
  have hpieces : ∀ cs : List Char,
      Expression.plainText (cs.map fun c => plain [c]) = String.ofList cs := by
    intro cs
    induction cs with
    | nil => rfl
    | cons c cs ih =>
      rw [List.map_cons, plain, Expression.plainText, ih, ← String.ofList_append,
        List.singleton_append]
  have hmerge := Expression.plainText_mergeTexts (quotedPieces s)
  rw [quotedPieces, hpieces, String.ofList_toList] at hmerge
  exact hmerge

/-- No instance is created for quoted arguments, so that the one of their call is the first. -/
theorem exists_instantiate_quotedTree (config : EngineConfig) (key : String) (routine : Routine)
    (ss : List String) (store : Store) :
    ∃ arguments : List LiveExpression,
      (quotedTree config key routine ss).instantiate store =
        (⟨quotedCall key ss, [.call key (store.create routine).1 arguments 0],
          .fresh config.staticCaching⟩, (store.create routine).2) ∧
      (∀ e ∈ arguments, e.isPureLiteral = true) ∧
      arguments.map (fun e => Expression.plainText e.pieces) = ss := by
  have hpure : ∀ e ∈ ss.map (quotedArgument config), e.isPureLiteral = true := by
    intro e he
    rcases List.mem_map.mp he with ⟨s, -, rfl⟩
    exact isPureLiteral_quotedArgument config s
  have hquoted : (ss.map (quotedArgument config)).map
      (fun e => Expression.plainText e.pieces) = ss := by
    rw [List.map_map]
    refine (List.map_congr_left ?_).trans (List.map_id' ss)
    intro s _
    exact plainText_quotedArgument config s
  rcases Expression.relabelArguments_of_isPureLiteral
    (fun routine (store : Store) => store.create routine) hpure store with
    ⟨hstate, hliterals, htexts⟩
  refine ⟨_, ?_, hliterals, htexts.trans hquoted⟩
  simp only [Expression.instantiate, quotedTree, Expression.relabel, Expression.relabelPieces,
    hstate, Cache.vacate_fresh]

end Grammar

open Grammar in
/-- A call of a known key with quoted arguments, of which there may be as many as the routine takes,
compiles to one call with as many arguments and no references in them. Whenever it is evaluated,
its instance is executed once, with the texts that were quoted, and the output is what this
contributes. -/
theorem Engine.compile_quotedCall {engine : Engine} {key : String} {routine : Routine}
    {ss : List String} (hkey : IsIdentifier key.toList)
    (hknown : engine.registry.lookup key = some routine) (hss : ss ≠ [""])
    (h : ∀ s ∈ ss, Balanced s.toList) (haccepts : routine.signature.accepts ss.length = true)
    (hdepth : 1 ≤ engine.config.maxNestingDepth) (m : Machine) :
    ∃ (e : LiveExpression) (id : InstanceId) (arguments : List LiveExpression),
      (engine.compile (quotedCall key ss) m).1 = .ok e ∧
      e.pieces = [.call key id arguments 0] ∧ arguments.length = ss.length ∧
      (∀ argument ∈ arguments, argument.isPureLiteral = true) ∧
      (∃ family, (engine.compile (quotedCall key ss) m).2.store.get? id =
        some ⟨routine, routine.initial, family⟩) ∧
      ∀ turns scene m' inst, m'.store.get? id = some inst →
        ((e.after turns).evaluate scene m').1 =
          (contribution key 0 (m'.execute scene id ss).1 m').1 ∧
        ((e.after turns).evaluate scene m').2.2.executions = m'.executions ++ [(id, ss)] := by
  have hp := parse_quotedCall hkey hknown hss h haccepts hdepth
  rcases Engine.compile_eq_of_parse hp m with ⟨hcompile, hstore⟩
  rcases exists_instantiate_quotedTree engine.config key routine ss m.store with
    ⟨arguments, hinstantiate, hliterals, htexts⟩
  have hsound : ((quotedTree engine.config key routine ss).instantiate m.store).1.Sound :=
    Expression.sound_relabel _ _ m.store
  rw [hinstantiate] at hcompile hstore hsound
  refine ⟨_, _, arguments, hcompile, rfl, ?_, hliterals, ⟨m.store.families.size, ?_⟩, ?_⟩
  · rw [← List.length_map (fun e => Expression.plainText e.pieces), htexts]
  · rw [hstore]
    exact m.store.get?_create_self routine
  · intro turns scene m' inst hi
    rcases Expression.evaluate_after hsound turns scene m' with ⟨hvalue, halike⟩
    rcases Expression.evaluate_call hsound hliterals scene hi htexts with ⟨hcall, hexecutions⟩
    exact ⟨hvalue.trans hcall, halike.executions.trans hexecutions⟩

/-- A text that would be a call with two arguments, were it not quoted. -/
def looksLikeCall : String := "$\x7btally(1,\\2)\x7d"

open Session Grammar in
theorem Engine.compile_quotedCall_looksLikeCall :
    quotedCall "tally" [looksLikeCall] = "$\x7btally(\\$\x7btally(1\\,\\\\2)\x7d)\x7d" ∧
      ∃ (e : LiveExpression) (id : InstanceId) (arguments : List LiveExpression),
        (tallyEngine.compile (quotedCall "tally" [looksLikeCall]) { entropy := ⟨0⟩ }).1 = .ok e ∧
        e.pieces = [.call "tally" id arguments 0] ∧ arguments.length = 1 := by
  have hkey : IsIdentifier "tally".toList := by
    simp [IsIdentifier, reserved]
  have hknown : tallyEngine.registry.lookup "tally" = some Library.Samples.tally := rfl
  have hbalanced : ∀ s ∈ [looksLikeCall], Balanced s.toList := by
    decide
  rcases compile_quotedCall hkey hknown (by decide) hbalanced rfl (by decide)
    { entropy := ⟨0⟩ } with ⟨e, id, arguments, he, hpieces, hlength, -⟩
  exact ⟨rfl, e, id, arguments, he, hpieces, hlength⟩

end TextTemplate
