import TextTemplate.Proofs.ArgumentTexts

/-!
# Numbers of arguments

A registered key can be called with the numbers of arguments that the signature of its routine
accepts, and with no others.

* `Piece.Admitted` says so of one reference of a tree; `parse_admitted` has it for all references
  of a text, at whatever depth.
* `callText` and `bareText` are texts that are one reference. `parse_callText` and
  `parse_bareText`: they are parsed exactly if the number of arguments is accepted.
-/

namespace TextTemplate

/-- A call goes to what its key calls and has a number of arguments that is accepted there. A
variable has a name that calls nothing. -/
def Piece.Admitted (registry : Registry) : Piece Routine → Prop
  | .text _ => True
  | .var name _ => registry.lookup name = none
  | .call key routine arguments _ =>
    registry.lookup key = some routine ∧ routine.signature.accepts arguments.length = true

namespace Grammar

open Expression

variable {registry : Registry} {config : EngineConfig}

/-! ## All references of a text -/

-- The induction is on the derivation: a call comes with the check of its arguments, and the
-- references in these are derived within it.
mutual

theorem Reference.admitted : ∀ {depth n : Nat} {us : List Symbol} {p : Piece Routine},
    Reference registry config depth n us p → ∀ node ∈ nodesOfPieces [p], node.Admitted registry
  | _, _, _, _, .var _ _ unknown => by
    intro node hn
    cases List.mem_singleton.mp hn
    exact unknown
  | _, _, _, _, .bareCall _ _ known accepted => by
    intro node hn
    cases List.mem_singleton.mp hn
    exact ⟨known, accepted⟩
  | _, _, _, _, @Reference.call _ _ _ _ _ _ _ es _ _ known arguments accepted => by
    intro node hn
    simp only [nodesOfPieces, List.append_nil, List.mem_cons] at hn
    rcases hn with rfl | hn
    · exact ⟨known, accepted⟩
    · rcases callArguments_eq es with hes | hes
      · rw [hes] at hn
        cases hn
      · rw [hes] at hn
        exact arguments.admitted node hn

theorem Arguments.admitted : ∀ {depth n : Nat} {us : List Symbol} {es : List (Expression Routine)},
    Arguments registry config depth n us es → ∀ node ∈ nodesOfArguments es, node.Admitted registry
  | _, _, _, _, @Arguments.last _ _ _ _ _ ps only => by
    rw [nodesOfArguments, nodes_eq, argument, nodesOfPieces_mergeTexts, nodesOfArguments,
      List.append_nil]
    exact only.admitted
  | _, _, _, _, @Arguments.more _ _ _ _ us ps vs es first rest => by
    rw [nodesOfArguments, nodes_eq, argument, nodesOfPieces_mergeTexts]
    exact List.forall_mem_append.mpr ⟨first.admitted, rest.admitted⟩

theorem Argument.admitted : ∀ {depth k n : Nat} {us : List Symbol} {ps : List (Piece Routine)},
    Argument registry config depth k n us ps → ∀ node ∈ nodesOfPieces ps, node.Admitted registry
  | _, _, _, _, _, .nil => nofun
  | _, _, _, _, _, .pair rest => rest.admitted
  | _, _, _, _, _, .leftParen rest => rest.admitted
  | _, _, _, _, _, .rightParen rest => rest.admitted
  | _, _, _, _, _, .comma rest => rest.admitted
  | _, _, _, _, _, .single _ rest => rest.admitted
  | _, _, _, _, _, .reference inner rest => by
    rw [nodesOfPieces_cons]
    exact List.forall_mem_append.mpr ⟨inner.admitted, rest.admitted⟩

end

theorem Template.admitted {n : Nat} {us : List Symbol} {ps : List (Piece Routine)}
    (h : Template registry config n us ps) : ∀ node ∈ nodesOfPieces ps, node.Admitted registry := by
  induction h with
  | nil => exact nofun
  | escape _ ih => exact ih
  | pair _ _ ih => exact ih
  | single _ ih => exact ih
  | reference inner _ ih =>
    rw [nodesOfPieces_cons]
    exact List.forall_mem_append.mpr ⟨inner.admitted, ih⟩

/-- All references of a text that is parsed are admitted. -/
theorem parse_admitted {text : String} {tree : Expression Routine}
    (h : parse registry config text = .ok tree) : ∀ node ∈ tree.nodes, node.Admitted registry := by
  rcases derives_of_parse h with ⟨us, ps, -, ht, rfl⟩
  rw [nodes_eq, nodesOfPieces_mergeTexts]
  exact ht.admitted

/-! ## A text that is one reference -/

/-- A bare reference. -/
def bareText (key : String) : String := "$\x7b" ++ key ++ "\x7d"

/-- A call with arguments in parentheses. -/
def callText (key arguments : String) : String := "$\x7b" ++ key ++ "(" ++ arguments ++ ")\x7d"

/-- The symbols of a bare reference. -/
def bareSymbols (name : List Char) : List Symbol := .opening :: name.map .single ++ [.single '}']

/-- The symbols of a call, of which `us` are those of its arguments. -/
def callSymbols (name : List Char) (us : List Symbol) : List Symbol :=
  .opening :: name.map .single ++ .single '(' :: us ++ [.single ')', .single '}']

/-- The symbols of a text are those of its two parts, unless the first character of the second
part can end a longer symbol. -/
theorem Splits.append_of_head {cs ds : List Char} {us vs : List Symbol} (h : Splits cs us)
    (hhead : ∀ d ∈ ds.head?, Token.isQuotable d = false ∧ d ≠ '{') (h' : Splits ds vs) :
    Splits (cs ++ ds) (us ++ vs) := by
  induction h with
  | nil => exact h'
  | pair quotable _ ih => exact .pair quotable ih
  | opening _ ih => exact .opening ih
  | @single c cs us unpaired unopened _ ih =>
    cases cs with
    | cons d cs => exact .single unpaired unopened ih
    | nil => exact .single (fun _ d hd => (hhead d hd).1) (fun _ hd => (hhead '{' hd).2 rfl) ih

/-- The characters of a name are symbols by themselves. -/
theorem splits_name {name cs : List Char} {us : List Symbol} (hname : ∀ c ∈ name, c ∉ reserved)
    (h : Splits cs us) : Splits (name ++ cs) (name.map .single ++ us) := by
  induction name with
  | nil => exact h
  | cons c name ih =>
    rcases List.forall_mem_cons.mp hname with ⟨hc, hcs⟩
    refine .single ?_ ?_ (ih hcs)
    · rintro rfl
      exact absurd (by decide) hc
    · rintro rfl
      exact absurd (by decide) hc

/-- A parenthesis or brace is a symbol by itself. -/
theorem splits_mark {c : Char} {cs : List Char} {us : List Symbol}
    (hc : c = '(' ∨ c = ')' ∨ c = '}') (h : Splits cs us) : Splits (c :: cs) (.single c :: us) := by
  rcases hc with rfl | rfl | rfl
  · exact .single nofun nofun h
  · exact .single nofun nofun h
  · exact .single nofun nofun h

theorem splits_bareText {key : String} (hkey : IsIdentifier key.toList) :
    Splits (bareText key).toList (bareSymbols key.toList) := by
  have htext : (bareText key).toList = '$' :: '{' :: (key.toList ++ ['}']) := by
    simp [bareText]
  rw [htext]
  exact .opening (splits_name hkey.2 (splits_mark (by simp) .nil))

theorem splits_callText {key arguments : String} {us : List Symbol}
    (hkey : IsIdentifier key.toList) (hs : Splits arguments.toList us) :
    Splits (callText key arguments).toList (callSymbols key.toList us) := by
  have htext : (callText key arguments).toList =
      '$' :: '{' :: (key.toList ++ '(' :: (arguments.toList ++ [')', '}'])) := by
    simp [callText]
  have hsymbols : callSymbols key.toList us =
      .opening ::
        (key.toList.map .single ++ .single '(' :: (us ++ [.single ')', .single '}'])) := by
    simp [callSymbols]
  have hend : Splits [')', '}'] [.single ')', .single '}'] :=
    splits_mark (by simp) (splits_mark (by simp) .nil)
  have hhead : ∀ d ∈ [')', '}'].head?, Token.isQuotable d = false ∧ d ≠ '{' := by
    rintro d ⟨⟩
    decide
  rw [htext, hsymbols]
  exact .opening (splits_name hkey.2 (splits_mark (by simp) (hs.append_of_head hhead hend)))

theorem parse_reference {text : String} {us : List Symbol} {p : Piece Routine}
    (hs : Splits text.toList us) (h : Reference registry config 1 0 us p) :
    parse registry config text = .ok ⟨text, mergeTexts [p], Cache.fresh config.staticCaching⟩ := by
  have htemplate := Template.reference h .nil
  rw [List.append_nil] at htemplate
  exact parse_eq_of_derives ⟨us, [p], hs, htemplate, rfl⟩

/-- A reader that gets to the end from a call on has found a routine that accepts the arguments. -/
theorem accepted_of_call {outer : Draft} {frames : List Frame} {n : Nat} {name : List Char}
    {us rest : List Symbol} {es : List (Expression Routine)}
    (hallowed : frames.length < config.maxNestingDepth) (hnamed : IsIdentifier name)
    (hes : Arguments registry config (frames.length + 1) (n + 2 + utf8Width name + 1) us es)
    (h : Accepts registry config ⟨outer, frames, .content⟩ n (callSymbols name us ++ rest)) :
    ∃ routine, registry.lookup (String.ofList name) = some routine ∧
      routine.signature.accepts (callArguments es).length = true := by
  have hsplit : callSymbols name us ++ rest =
      .opening :: (name.map .single ++
        .single '(' :: (us ++ .single ')' :: .single '}' :: rest)) := by
    simp [callSymbols]
  rw [hsplit] at h
  have hafter := h.of_eq (read_opening_name hnamed outer frames hallowed n _)
  obtain ⟨next, hopen, hrest⟩ :=
    hafter.of_match (read_name_leftParen _ _ _ _ _ _ (ofList_ne_empty hnamed.1))
  obtain ⟨routine, hl, f, hf, hargs, hroutine, rfl⟩ := openCall_ok hopen
  -- The arguments are read as they are derived, and the check comes at the end of them.
  obtain ⟨g, hg, hread⟩ := hes.read_append outer f frames rfl hf
  obtain ⟨next, hfinish, -⟩ := (hrest.of_eq (hread _)).of_match (read_close _ _ _ _ _ hg.parens)
  have haccepts := (finishArguments_ok hfinish).1
  rw [hg.routine, hroutine, hg.arguments, hargs, List.reverse_nil, List.nil_append] at haccepts
  exact ⟨routine, hl, haccepts⟩

/-- A reader that gets to the end from a bare reference on has found no routine, or one that can
do without arguments. -/
theorem accepted_of_bare {outer : Draft} {frames : List Frame} {n : Nat} {name : List Char}
    {rest : List Symbol} (hallowed : frames.length < config.maxNestingDepth)
    (hnamed : IsIdentifier name)
    (h : Accepts registry config ⟨outer, frames, .content⟩ n (bareSymbols name ++ rest)) :
    registry.lookup (String.ofList name) = none ∨
      ∃ routine, registry.lookup (String.ofList name) = some routine ∧
        routine.signature.accepts 0 = true := by
  have hsplit : bareSymbols name ++ rest =
      .opening :: (name.map .single ++ .single '}' :: rest) := by
    simp [bareSymbols]
  rw [hsplit] at h
  have hafter := h.of_eq (read_opening_name hnamed outer frames hallowed n _)
  obtain ⟨next, hfinish, -⟩ :=
    hafter.of_match (read_name_rightBrace _ _ _ _ _ _ (ofList_ne_empty hnamed.1))
  exact finishName_ok hfinish

/-- A call is parsed exactly if its key calls a routine that accepts the number of the arguments. -/
theorem parse_callText {key arguments : String} {us : List Symbol} {es : List (Expression Routine)}
    (hdepth : 0 < config.maxNestingDepth) (hkey : IsIdentifier key.toList)
    (hs : Splits arguments.toList us)
    (hes : Arguments registry config 1 (2 + utf8Width key.toList + 1) us es) :
    (∃ tree, parse registry config (callText key arguments) = .ok tree) ↔
      ∃ routine, registry.lookup key = some routine ∧
        routine.signature.accepts (callArguments es).length = true := by
  have hes' : Arguments registry config 1 (0 + 2 + utf8Width key.toList + 1) us es := by
    rw [Nat.zero_add]
    exact hes
  have hkey' : String.ofList key.toList = key := String.ofList_toList
  constructor
  · rintro ⟨tree, htree⟩
    have haccepts := accepts_of_parse (splits_callText hkey hs) htree
    rw [← List.append_nil (callSymbols key.toList us)] at haccepts
    have hallowed : ([] : List Frame).length < config.maxNestingDepth := hdepth
    have haccepted := accepted_of_call hallowed hkey hes' haccepts
    rwa [hkey'] at haccepted
  · rintro ⟨routine, hl, ha⟩
    rw [← hkey'] at hl
    exact ⟨_, parse_reference (splits_callText hkey hs) (.call hdepth hkey hl hes' ha)⟩

/-- A bare reference is parsed exactly if its name calls nothing, or a routine that can do without
arguments. -/
theorem parse_bareText {key : String} (hdepth : 0 < config.maxNestingDepth)
    (hkey : IsIdentifier key.toList) :
    (∃ tree, parse registry config (bareText key) = .ok tree) ↔
      registry.lookup key = none ∨
        ∃ routine, registry.lookup key = some routine ∧
          routine.signature.accepts 0 = true := by
  have hkey' : String.ofList key.toList = key := String.ofList_toList
  constructor
  · rintro ⟨tree, htree⟩
    have haccepts := accepts_of_parse (splits_bareText hkey) htree
    rw [← List.append_nil (bareSymbols key.toList)] at haccepts
    have hallowed : ([] : List Frame).length < config.maxNestingDepth := hdepth
    have haccepted := accepted_of_bare hallowed hkey haccepts
    rwa [hkey'] at haccepted
  · rintro (hl | ⟨routine, hl, ha⟩)
    · rw [← hkey'] at hl
      exact ⟨_, parse_reference (splits_bareText hkey) (.var hdepth hkey hl)⟩
    · rw [← hkey'] at hl
      exact ⟨_, parse_reference (splits_bareText hkey) (.bareCall hdepth hkey hl ha)⟩

end Grammar

end TextTemplate
