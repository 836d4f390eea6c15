import TextTemplate.Proofs.BadPrefixes
import TextTemplate.Proofs.Layout

/-!
# The nesting limit

How deep references may be nested decides about which texts compile and nothing else.

* `Expression.places` lists how deep each reference of a tree is nested, and where it stands.
* `Reference.relimit`, `Arguments.relimit` and `Argument.relimit`: what can be derived can be
  derived with every limit that its references keep to.
* `Reference.refused`, `Arguments.refused` and `Argument.refused`: reading with a limit ends at the
  first reference that is deeper.
* `Reader.step_limited` is the step lemma for two limits, and `Engine.compile_limited` puts the
  three together.
-/

namespace TextTemplate

universe u v w

variable {α : Type u} {β : Type v} {σ : Type w}

/-! ## Depths -/

/-- How deep a reference is nested, and the offset of its `${`. -/
structure Place where
  depth : Nat
  position : Nat
deriving DecidableEq, Repr

mutual

/-- The places of the references in a piece that is nested `depth` deep if it is a reference. Those
in the arguments of a call are one deeper. -/
def Piece.places (depth : Nat) : Piece α → List Place
  | .text _ => []
  | .var _ position => [⟨depth, position⟩]
  | .call _ _ arguments position => ⟨depth, position⟩ :: placesOfArguments (depth + 1) arguments

/-- The places of the references in pieces. -/
def placesOfPieces (depth : Nat) : List (Piece α) → List Place
  | [] => []
  | piece :: pieces => piece.places depth ++ placesOfPieces depth pieces

/-- The places of the references in arguments. -/
def placesOfArguments (depth : Nat) : List (Expression α) → List Place
  | [] => []
  | ⟨_, pieces, _⟩ :: es => placesOfPieces depth pieces ++ placesOfArguments depth es

end

namespace Expression

/-- The places of the references of an expression, in the order of `nodes`. One at top level has
depth 1. -/
def places (e : Expression α) : List Place := placesOfPieces 1 e.pieces

/-- How deep references are nested in an expression. -/
def nesting (e : Expression α) : Nat := (e.places.map Place.depth).foldr max 0

end Expression

theorem foldr_max_le {depths : List Nat} {d : Nat} :
    depths.foldr max 0 ≤ d ↔ ∀ depth ∈ depths, depth ≤ d := by
  induction depths with
  | nil => simp
  | cons depth depths ih => rw [List.foldr_cons, Nat.max_le, ih, List.forall_mem_cons]

theorem Expression.nesting_le {e : Expression α} {d : Nat} :
    e.nesting ≤ d ↔ ∀ place ∈ e.places, place.depth ≤ d := by
  simp [nesting, foldr_max_le]

/-- Texts that are put together are no references. -/
@[simp]
theorem placesOfPieces_mergeTexts (depth : Nat) (pieces : List (Piece α)) :
    placesOfPieces depth (Grammar.mergeTexts pieces) = placesOfPieces depth pieces := by
  apply Grammar.apply_mergeTexts (placesOfPieces depth) (fun _ _ => rfl)
  intro piece ps qs h
  rw [placesOfPieces, placesOfPieces, h]

section Copies

open Expression

variable (f : α → σ → β × σ)

mutual

/-- The references of a copy are at the same places. -/
theorem places_relabelPieces (depth : Nat) : (pieces : List (Piece α)) → (s : σ) →
    placesOfPieces depth (relabelPieces f pieces s).1 = placesOfPieces depth pieces
  | [], _ => rfl
  | .text _ :: pieces, s => by
    simp only [relabelPieces, placesOfPieces, Piece.places, places_relabelPieces depth pieces]
  | .var _ _ :: pieces, s => by
    simp only [relabelPieces, placesOfPieces, Piece.places, places_relabelPieces depth pieces]
  | .call _ _ arguments _ :: pieces, s => by
    simp only [relabelPieces, placesOfPieces, Piece.places,
      places_relabelArguments (depth + 1) arguments, places_relabelPieces depth pieces]

theorem places_relabelArguments (depth : Nat) : (es : List (Expression α)) → (s : σ) →
    placesOfArguments depth (relabelArguments f es s).1 = placesOfArguments depth es
  | [], _ => rfl
  | ⟨_, pieces, _⟩ :: es, s => by
    simp only [relabelArguments, relabel, placesOfArguments, places_relabelPieces depth pieces,
      places_relabelArguments depth es]

end

theorem places_instantiate (e : Expression Routine) (store : Store) :
    (e.instantiate store).1.places = e.places := by
  cases e
  simp only [instantiate, relabel, places, places_relabelPieces]

end Copies

section Order

open Expression

mutual

/-- The places are those of the nodes. -/
theorem positions_placesOfPieces (depth : Nat) : (pieces : List (Piece α)) →
    (placesOfPieces depth pieces).map Place.position =
      (nodesOfPieces pieces).map Piece.position
  | [] => rfl
  | .text _ :: pieces => by
    simp [placesOfPieces, Piece.places, nodesOfPieces, positions_placesOfPieces depth pieces]
  | .var _ _ :: pieces => by
    simp [placesOfPieces, Piece.places, nodesOfPieces, Piece.position,
      positions_placesOfPieces depth pieces]
  | .call _ _ arguments _ :: pieces => by
    simp [placesOfPieces, Piece.places, nodesOfPieces, Piece.position,
      positions_placesOfArguments (depth + 1) arguments, positions_placesOfPieces depth pieces]

theorem positions_placesOfArguments (depth : Nat) : (es : List (Expression α)) →
    (placesOfArguments depth es).map Place.position =
      (nodesOfArguments es).map Piece.position
  | [] => rfl
  | ⟨_, pieces, _⟩ :: es => by
    simp [placesOfArguments, nodesOfArguments, nodes, positions_placesOfPieces depth pieces,
      positions_placesOfArguments depth es]

end

/-- The references of a tree stand in the order of their places. -/
theorem PiecesLaidOut.places_pairwise {n : Nat} {source : String} {pieces : List (Piece α)}
    (h : PiecesLaidOut n source pieces) (depth : Nat) :
    (placesOfPieces depth pieces).Pairwise fun a b => a.position < b.position := by
  have hnodes := List.pairwise_map.mpr h.pairwise
  rw [← positions_placesOfPieces depth] at hnodes
  exact List.pairwise_map.mp hnodes

end Order

/-! ## Limits -/

/-- The same configuration with another limit. -/
def EngineConfig.limited (config : EngineConfig) (d : Nat) : EngineConfig :=
  { config with maxNestingDepth := d }

/-- The same engine with another limit. -/
def Engine.limited (engine : Engine) (d : Nat) : Engine :=
  { engine with config := engine.config.limited d }

namespace Reader

variable (registry : Registry) (config : EngineConfig) {d d' : Nat}

/-- An outcome with a limit `d` is that with a larger limit, or says that the limit is exceeded. -/
def SameOrTooDeep {ρ : Type u} (d : Nat) (outcome outcome' : Except CompileError ρ) : Prop :=
  outcome = outcome' ∨ ∃ position, outcome = .error (.nestingTooDeep d position)

theorem openReference_limited (h : d ≤ d') (r : Reader) (position : Nat) :
    SameOrTooDeep d (r.openReference (config.limited d) position)
      (r.openReference (config.limited d') position) := by
  by_cases hd : r.frames.length < d
  · have hd' : r.frames.length < d' := Nat.lt_of_lt_of_le hd h
    exact .inl ((if_pos hd).trans (if_pos hd').symm)
  · exact .inr ⟨position, if_neg hd⟩

theorem stepOuter_limited (h : d ≤ d') (r : Reader) (l : Lexeme) (next : Option Token) :
    SameOrTooDeep d (r.stepOuter (config.limited d) l next)
      (r.stepOuter (config.limited d') l next) := by
  unfold stepOuter
  split
  · exact openReference_limited config h r l.start
  · exact .inl rfl
  · exact .inl rfl

theorem stepArgument_limited (h : d ≤ d') (r : Reader) (f : Frame) (fs : List Frame)
    (l : Lexeme) :
    SameOrTooDeep d (r.stepArgument (config.limited d) f fs l)
      (r.stepArgument (config.limited d') f fs l) := by
  rcases l with ⟨start, token⟩
  cases token with
  | openReference => exact openReference_limited config h r start
  | comma =>
    left
    cases hp : f.parens with
    | nil =>
      simp only [stepArgument, hp]
      rfl
    | cons p parens => simp only [stepArgument, hp]
  | rightParen =>
    left
    cases hp : f.parens with
    | nil =>
      simp only [stepArgument, hp]
      rfl
    | cons p parens => simp only [stepArgument, hp]
  | text | escaped | leftParen | rightBrace => exact .inl rfl

/-- Limits make a difference only where a reference begins. -/
theorem step_limited (h : d ≤ d') (r : Reader) (l : Lexeme) (next : Option Token) :
    SameOrTooDeep d (r.step registry (config.limited d) l next)
      (r.step registry (config.limited d') l next) := by
  rcases r with ⟨outer, frames, mode⟩
  cases mode with
  | naming | closing => exact .inl rfl
  | content =>
    cases frames with
    | nil => exact stepOuter_limited config h _ l next
    | cons f fs => exact stepArgument_limited config h _ f fs l

theorem run_limited (h : d ≤ d') (r : Reader) (ls : List Lexeme) :
    SameOrTooDeep d (r.run registry (config.limited d) ls)
      (r.run registry (config.limited d') ls) := by
  induction ls generalizing r with
  | nil => exact .inl rfl
  | cons l ls ih =>
    rw [Grammar.run_cons, Grammar.run_cons]
    rcases step_limited registry config h r l (ls.head?.map Lexeme.token)
      with hs | ⟨position, hs⟩
    · rw [hs]
      cases r.step registry (config.limited d') l (ls.head?.map Lexeme.token) with
      | error e => exact .inl rfl
      | ok next => exact ih next
    · rw [hs]
      exact .inr ⟨position, rfl⟩

end Reader

theorem parse_limited (registry : Registry) (config : EngineConfig) {d d' : Nat} (h : d ≤ d')
    (text : String) :
    Reader.SameOrTooDeep d (parse registry (config.limited d) text)
      (parse registry (config.limited d') text) := by
  unfold parse
  rcases Reader.run_limited registry config h {} (Token.scan text) with hr | ⟨position, hr⟩
  · rw [hr]
    exact .inl rfl
  · rw [hr]
    exact .inr ⟨position, rfl⟩

namespace Grammar

variable {registry : Registry} {config : EngineConfig} {d : Nat}

/-! ## Within a limit -/

theorem Argument.eq_nil {depth k n : Nat} {us : List Symbol} {ps : List (Piece Routine)}
    (h : Argument registry config depth k n us ps) (hus : us = []) : ps = [] := by
  cases h with
  | nil => rfl
  | reference inner rest =>
    cases inner <;> cases hus
  | pair | leftParen | rightParen | comma | single => cases hus

theorem placesOfArguments_argument (depth : Nat) (us : List Symbol) (ps : List (Piece Routine))
    (es : List (Expression Routine)) :
    placesOfArguments depth (argument config us ps :: es) =
      placesOfPieces depth ps ++ placesOfArguments depth es := by
  rw [← placesOfPieces_mergeTexts]
  rfl

/-- An argument that is dropped has no references in it. -/
theorem Arguments.places_callArguments {depth n : Nat} {us : List Symbol}
    {es : List (Expression Routine)} (h : Arguments registry config depth n us es)
    (depth' : Nat) :
    placesOfArguments depth' (callArguments es) = placesOfArguments depth' es := by
  cases h with
  | more _ rest => cases rest <;> rfl
  | @last _ _ us ps only =>
    by_cases hraw : (argument config us ps).raw = ""
    · have hus : us = [] := by
        cases us with
        | nil => rfl
        | cons u us => cases u <;> simp [argument, spelling_cons, Symbol.written] at hraw
      rw [callArguments, if_pos hraw, placesOfArguments_argument, only.eq_nil hus]
      rfl
    · rw [callArguments, if_neg hraw]

-- The induction is on the derivation; the depth need not be the one in it.
mutual

theorem Reference.relimit : ∀ {depth depth' n : Nat} {us : List Symbol} {p : Piece Routine},
    Reference registry config depth n us p → (∀ place ∈ p.places depth', place.depth ≤ d) →
    Reference registry (config.limited d) depth' n us p
  | _, _, _, _, _, .var _ named unknown, h => by
    have hallowed := h _ (List.mem_singleton_self _)
    exact .var hallowed named unknown
  | _, _, _, _, _, .bareCall _ named known accepted, h => by
    rw [Piece.places, List.forall_mem_cons] at h
    exact .bareCall h.1 named known accepted
  | _, _, _, _, _, .call _ named known arguments accepted, h => by
    rw [Piece.places, List.forall_mem_cons, arguments.places_callArguments] at h
    exact .call h.1 named known (arguments.relimit h.2) accepted

theorem Arguments.relimit : ∀ {depth depth' n : Nat} {us : List Symbol}
    {es : List (Expression Routine)}, Arguments registry config depth n us es →
    (∀ place ∈ placesOfArguments (depth' + 1) es, place.depth ≤ d) →
    Arguments registry (config.limited d) depth' n us es
  | _, _, _, _, _, .last only, h => by
    rw [placesOfArguments_argument, List.forall_mem_append] at h
    exact .last (only.relimit h.1)
  | _, _, _, _, _, .more first rest, h => by
    rw [placesOfArguments_argument, List.forall_mem_append] at h
    exact .more (first.relimit h.1) (rest.relimit h.2)

theorem Argument.relimit : ∀ {depth depth' k n : Nat} {us : List Symbol}
    {ps : List (Piece Routine)}, Argument registry config depth k n us ps →
    (∀ place ∈ placesOfPieces (depth' + 1) ps, place.depth ≤ d) →
    Argument registry (config.limited d) depth' k n us ps
  | _, _, _, _, _, _, .nil, _ => .nil
  | _, _, _, _, _, _, .pair rest, h => .pair (rest.relimit h)
  | _, _, _, _, _, _, .leftParen rest, h => .leftParen (rest.relimit h)
  | _, _, _, _, _, _, .rightParen rest, h => .rightParen (rest.relimit h)
  | _, _, _, _, _, _, .comma rest, h => .comma (rest.relimit h)
  | _, _, _, _, _, _, .single ordinary rest, h => .single ordinary (rest.relimit h)
  | _, _, _, _, _, _, .reference inner rest, h => by
    rw [placesOfPieces, List.forall_mem_append] at h
    exact .reference (inner.relimit h.1) (rest.relimit h.2)

end

/-- A template keeps to every limit that its references keep to. -/
theorem Template.relimit {n : Nat} {us : List Symbol} {ps : List (Piece Routine)}
    (h : Template registry config n us ps) (hd : ∀ place ∈ placesOfPieces 1 ps, place.depth ≤ d) :
    Template registry (config.limited d) n us ps := by
  induction h with
  | nil => exact .nil
  | escape _ ih => exact .escape (ih hd)
  | pair kept _ ih => exact .pair kept (ih hd)
  | single _ ih => exact .single (ih hd)
  | reference inner _ ih =>
    rw [placesOfPieces, List.forall_mem_append] at hd
    exact .reference (inner.relimit hd.1) (ih hd.2)

/-! ## Beyond a limit -/

/-- The outcome of reading with a limit is an error at the first of the places that is deeper. The
limit is exceeded by one there. -/
def RefusedAt (d : Nat) (places : List Place) (outcome : Except CompileError Reader) : Prop :=
  ∀ place, places.find? (d < ·.depth) = some place →
    place.depth = d + 1 ∧ outcome = .error (.nestingTooDeep d place.position)

theorem RefusedAt.nil (outcome : Except CompileError Reader) : RefusedAt d [] outcome := by
  intro place hfind
  cases hfind

theorem RefusedAt.append {places places' : List Place} {outcome : Except CompileError Reader}
    (h : RefusedAt d places outcome)
    (h' : (∀ place ∈ places, place.depth ≤ d) → RefusedAt d places' outcome) :
    RefusedAt d (places ++ places') outcome := by
  intro place hfind
  rw [List.find?_append] at hfind
  cases hp : places.find? (d < ·.depth) with
  | some first =>
    rw [hp, Option.some_or] at hfind
    cases hfind
    exact h _ hp
  | none =>
    rw [hp, Option.none_or] at hfind
    have hwithin : ∀ place ∈ places, place.depth ≤ d := by
      simpa using hp
    exact h' hwithin place hfind

/-- An opening one deeper than the limit is refused. -/
theorem refusedAt_opening (registry : Registry) (config : EngineConfig) {depth : Nat}
    (hle : depth ≤ d + 1) (outer : Draft) {frames : List Frame} (hd : frames.length + 1 = depth)
    (n : Nat) (us : List Symbol) :
    RefusedAt d [⟨depth, n⟩]
      (read registry (config.limited d) ⟨outer, frames, .content⟩ n (.opening :: us)) := by
  intro place hfind
  have hdeep := List.find?_some hfind
  have hplace := List.mem_of_find?_eq_some hfind
  simp only [List.mem_singleton] at hplace
  subst hplace
  simp only [decide_eq_true_eq] at hdeep
  have hlimit : ¬ frames.length < (config.limited d).maxNestingDepth := by
    show ¬ frames.length < d
    omega
  refine ⟨?_, ?_⟩
  · show depth = d + 1
    omega
  · rw [read_opening, if_neg hlimit]
    rfl

/-- Up to its arguments, every call is read alike. -/
theorem read_call_arguments {name : List Char} {routine : Routine} (h : IsIdentifier name)
    (known : registry.lookup (String.ofList name) = some routine) (outer : Draft)
    {frames : List Frame} (hd : frames.length < config.maxNestingDepth) (n : Nat)
    (us : List Symbol) :
    ∃ f, Begins f ∧
      read registry config ⟨outer, frames, .content⟩ n
          (.opening :: (name.map .single ++ .single '(' :: us)) =
        read registry config ⟨outer, f :: frames, .content⟩ (n + 2 + utf8Width name + 1) us := by
  refine ⟨{ key := String.ofList name, routine, position := n, paren := n + 2 + utf8Width name,
            source := "$\x7b" ++ String.ofList name ++ "(" }, ⟨rfl, rfl, rfl⟩, ?_⟩
  rw [read_opening_name h outer frames hd, read_name_leftParen _ _ _ _ _ _ (ofList_ne_empty h.1)]
  simp only [Reader.openCall, known]

/-- Reading that goes on elsewhere is refused where it is refused there. -/
theorem RefusedAt.of_step {places : List Place} {r r' : Reader} {n n' : Nat}
    {us us' : List Symbol}
    (h : RefusedAt d places (read registry (config.limited d) r' n' us'))
    (hread : read registry (config.limited d) r n us =
      read registry (config.limited d) r' n' us') :
    RefusedAt d places (read registry (config.limited d) r n us) := by
  rw [hread]
  exact h

-- The induction is on the derivation, which may exceed the limit. What keeps to the limit is read
-- as it is derived, and the next reference that does not is where reading ends.
mutual

theorem Reference.refused : ∀ {depth n : Nat} {us : List Symbol} {p : Piece Routine},
    Reference registry config depth n us p → depth ≤ d + 1 →
    ∀ (outer : Draft) (frames : List Frame) (rest : List Symbol), frames.length + 1 = depth →
    RefusedAt d (p.places depth)
      (read registry (config.limited d) ⟨outer, frames, .content⟩ n (us ++ rest))
  | _, n, _, _, .var _ _ _, hle, outer, _, _, hd => refusedAt_opening _ _ hle outer hd n _
  | _, n, _, _, .bareCall _ _ _ _, hle, outer, _, _, hd => refusedAt_opening _ _ hle outer hd n _
  | _, n, _, _, @Reference.call _ _ depth _ name _ us es _ named known arguments _, hle, outer,
      frames, rest, hd => by
    have hopening := refusedAt_opening registry config hle outer hd n
      (name.map .single ++ .single '(' :: (us ++ .single ')' :: .single '}' :: rest))
    have happend : (Symbol.opening :: name.map .single ++ .single '(' :: us ++
          [.single ')', .single '}']) ++ rest =
        .opening :: (name.map .single ++
          .single '(' :: (us ++ .single ')' :: .single '}' :: rest)) := by
      simp
    rw [happend]
    apply hopening.append
    intro hwithin
    rw [arguments.places_callArguments]
    have hallowed : depth ≤ d := hwithin _ (List.mem_singleton_self _)
    have hframes : frames.length < (config.limited d).maxNestingDepth := by
      show frames.length < d
      omega
    rcases read_call_arguments named known outer hframes n
      (us ++ .single ')' :: .single '}' :: rest) with ⟨f, hf, hread⟩
    rw [hread]
    exact arguments.refused hallowed outer f frames _ hd hf

theorem Arguments.refused : ∀ {depth n : Nat} {us : List Symbol}
    {es : List (Expression Routine)}, Arguments registry config depth n us es → depth ≤ d →
    ∀ (outer : Draft) (f : Frame) (fs : List Frame) (rest : List Symbol),
    fs.length + 1 = depth → Begins f →
    RefusedAt d (placesOfArguments (depth + 1) es)
      (read registry (config.limited d) ⟨outer, f :: fs, .content⟩ n (us ++ rest))
  | _, _, _, _, .last only, hle, outer, f, fs, rest, hd, hf => by
    rw [placesOfArguments_argument]
    have hk : f.parens.length = 0 := by rw [hf.parens, List.length_nil]
    exact (only.refused hle outer f fs rest hd hk).append fun _ => .nil _
  | _, _, _, _, @Arguments.more _ _ _ n us ps vs es first others, hle, outer, f, fs, rest, hd,
      hf => by
    rw [placesOfArguments_argument, List.append_assoc, List.cons_append]
    have hk : f.parens.length = 0 := by rw [hf.parens, List.length_nil]
    apply (first.refused hle outer f fs _ hd hk).append
    intro hwithin
    rw [(first.relimit hwithin).read_append outer f fs _ hd hk, read_separator _ _ _ _ _ rfl]
    exact others.refused hle outer _ fs rest hd (begins_nextArgument _)

theorem Argument.refused : ∀ {depth k n : Nat} {us : List Symbol} {ps : List (Piece Routine)},
    Argument registry config depth k n us ps → depth ≤ d →
    ∀ (outer : Draft) (f : Frame) (fs : List Frame) (rest : List Symbol),
    fs.length + 1 = depth → f.parens.length = k →
    RefusedAt d (placesOfPieces (depth + 1) ps)
      (read registry (config.limited d) ⟨outer, f :: fs, .content⟩ n (us ++ rest))
  | _, _, _, _, _, .nil, _, _, _, _, _, _, _ => .nil _
  | _, _, n, _, _, @Argument.pair _ _ _ _ _ c _ _ others, hle, outer, f, fs, rest, hd, hk =>
    (others.refused hle outer (f.write ['\\', c] [c]) fs rest hd hk).of_step
      (read_argument_pair outer f fs n _ c)
  | _, _, n, _, _, .leftParen others, hle, outer, f, fs, rest, hd, hk => by
    refine (others.refused hle outer _ fs rest hd ?_).of_step
      (read_argument_leftParen outer f fs n _)
    simp [Frame.write, hk]
  | _, _, n, _, _, .rightParen others, hle, outer, f, fs, rest, hd, hk => by
    rcases List.exists_cons_of_length_eq_add_one hk with ⟨p, parens, hp⟩
    refine (others.refused hle outer _ fs rest hd ?_).of_step
      (read_argument_rightParen outer f fs n _ hp)
    simpa [Frame.write, hp] using hk
  | _, _, n, _, _, .comma others, hle, outer, f, fs, rest, hd, hk => by
    rcases List.exists_cons_of_length_eq_add_one hk with ⟨p, parens, hp⟩
    exact (others.refused hle outer (f.write [','] [',']) fs rest hd hk).of_step
      (read_argument_comma outer f fs n _ hp)
  | _, _, n, _, _, @Argument.single _ _ _ _ _ c _ _ ordinary others, hle, outer, f, fs, rest, hd, hk =>
    (others.refused hle outer (f.write [c] [c]) fs rest hd hk).of_step
      (read_argument_single outer f fs n _ ordinary)
  | _, _, n, _, _, @Argument.reference _ _ _ _ _ us p vs ps inner others, hle, outer, f, fs, rest,
      hd, hk => by
    rw [placesOfPieces, List.append_assoc]
    apply (inner.refused (Nat.add_le_add_right hle 1) outer (f :: fs) _ (by simp [hd])).append
    intro hwithin
    rw [(inner.relimit hwithin).read_append outer (f :: fs) _ (by simp [hd])]
    exact others.refused hle outer (f.add _ p) fs rest hd hk

end

/-- Reading a template with a limit ends at the first reference that is deeper. -/
theorem Template.refused {n : Nat} {us : List Symbol} {ps : List (Piece Routine)}
    (h : Template registry config n us ps) (outer : Draft) :
    RefusedAt d (placesOfPieces 1 ps)
      (read registry (config.limited d) ⟨outer, [], .content⟩ n us) := by
  induction h generalizing outer with
  | nil => exact .nil _
  | escape _ ih => exact (ih _).of_step (read_template_escape outer _ _)
  | pair kept _ ih => exact (ih _).of_step (read_template_pair outer _ _ kept)
  | single _ ih => exact (ih _).of_step (read_template_single outer _ _ _)
  | @reference n us p vs ps inner _ ih =>
    rw [placesOfPieces]
    apply (inner.refused (Nat.le_add_left 1 d) outer [] vs rfl).append
    intro hwithin
    rw [(inner.relimit hwithin).read_append outer [] vs rfl]
    exact ih _

/-- A text that compiles with some limit compiles to the same tree with every limit that its
references keep to. -/
theorem parse_of_nesting_le {text : String} {tree : Expression Routine}
    (h : parse registry config text = .ok tree) (hd : tree.nesting ≤ d) :
    parse registry (config.limited d) text = .ok tree := by
  rcases derives_of_parse h with ⟨us, ps, hs, ht, rfl⟩
  have hwithin : ∀ place ∈ placesOfPieces 1 ps, place.depth ≤ d := by
    rw [← placesOfPieces_mergeTexts]
    exact Expression.nesting_le.mp hd
  exact parse_eq_of_derives ⟨us, ps, hs, ht.relimit hwithin, rfl⟩

/-- With any other limit, the first reference that is deeper is refused. -/
theorem parse_of_find? {text : String} {tree : Expression Routine}
    (h : parse registry config text = .ok tree) {place : Place}
    (hfind : tree.places.find? (d < ·.depth) = some place) :
    place.depth = d + 1 ∧
      parse registry (config.limited d) text = .error (.nestingTooDeep d place.position) := by
  rcases derives_of_parse h with ⟨us, ps, hs, ht, rfl⟩
  have hplaces : (placesOfPieces 1 ps).find? (d < ·.depth) = some place := by
    rw [← placesOfPieces_mergeTexts]
    exact hfind
  rcases ht.refused {} place hplaces with ⟨hdepth, hread⟩
  have hrun : Reader.run registry (config.limited d) {} (Token.scan text) =
      .error (.nestingTooDeep d place.position) := (run_ofChars hs {} 0).trans hread
  refine ⟨hdepth, ?_⟩
  simp only [parse, hrun]

end Grammar

/-! ## Compilation -/

/-- The first place that is deeper than a limit is the first of its depth. -/
theorem le_position_of_find? {places : List Place} {d : Nat} {place : Place}
    (h : places.Pairwise fun a b => a.position < b.position)
    (hfind : places.find? (d < ·.depth) = some place) {other : Place} (ho : other ∈ places)
    (hd : other.depth = d + 1) : place.position ≤ other.position := by
  rcases List.find?_eq_some_iff_append.mp hfind with ⟨-, before, after, rfl, hbefore⟩
  rcases List.mem_append.mp ho with ho | ho
  · have hle := hbefore other ho
    simp [hd] at hle
  · rcases List.mem_cons.mp ho with rfl | ho
    · exact Nat.le_refl _
    · have hafter := (List.pairwise_append.mp h).2.1
      exact Nat.le_of_lt ((List.pairwise_cons.mp hafter).1 other ho)

/-- The nesting limit is exact and changes nothing else. Unless a limit is exceeded, a text compiles
to the same with every larger one. A text that compiles with a larger limit compiles if and only if
references are not nested deeper in its tree; if they are, the first reference that is one deeper
than the limit is reported. -/
theorem Engine.compile_limited (engine : Engine) (text : String) {d d' : Nat} (h : d ≤ d')
    (m : Machine) :
    ((∀ limit position,
        ((engine.limited d).compile text m).1 ≠ .error (.nestingTooDeep limit position)) →
      (engine.limited d').compile text m = (engine.limited d).compile text m) ∧
    ∀ e, ((engine.limited d').compile text m).1 = .ok e →
      ((∃ e', ((engine.limited d).compile text m).1 = .ok e') ↔ e.nesting ≤ d) ∧
      (d < e.nesting → ∃ position, ⟨d + 1, position⟩ ∈ e.places ∧
        (∀ place ∈ e.places, place.depth = d + 1 → position ≤ place.position) ∧
        ((engine.limited d).compile text m).1 = .error (.nestingTooDeep d position)) := by
  constructor
  · intro hother
    rcases parse_limited engine.registry engine.config h text with hp | ⟨position, hp⟩
    · simp only [compile, limited, hp]
    · exact absurd (compile_eq_error_iff.mpr hp) (hother d position)
  · intro e he
    rcases (Grammar.compile_eq_ok_iff_parse _ text m e).mp he with ⟨tree, hp, rfl⟩
    have hplaces := places_instantiate tree m.store
    have hnesting : (tree.instantiate m.store).1.nesting = tree.nesting := by
      rw [Expression.nesting, hplaces, Expression.nesting]
    rw [hplaces, hnesting]
    -- A tree that is nested deeper than the limit has a first reference that is.
    have hdeep : d < tree.nesting → ∃ position, ⟨d + 1, position⟩ ∈ tree.places ∧
        (∀ place ∈ tree.places, place.depth = d + 1 → position ≤ place.position) ∧
        ((engine.limited d).compile text m).1 = .error (.nestingTooDeep d position) := by
      intro hd
      cases hfind : tree.places.find? (d < ·.depth) with
      | none =>
        have hle : tree.nesting ≤ d := Expression.nesting_le.mpr (by simpa using hfind)
        omega
      | some place =>
        rcases Grammar.parse_of_find? hp hfind with ⟨hdepth, herror⟩
        have hordered := (laidOut_of_parse hp).places_pairwise 1
        have hmem := List.mem_of_find?_eq_some hfind
        refine ⟨place.position, ?_, ?_, compile_eq_error_iff.mpr herror⟩
        · rw [← hdepth]
          exact hmem
        · intro other ho
          exact le_position_of_find? hordered hfind ho
    refine ⟨⟨?_, ?_⟩, hdeep⟩
    · rintro ⟨e', he'⟩
      refine Nat.le_of_not_lt fun hd => ?_
      rcases hdeep hd with ⟨position, -, -, herror⟩
      rw [herror] at he'
      cases he'
    · intro hd
      have hp' := Grammar.parse_of_nesting_le hp hd
      exact ⟨_, (Grammar.compile_eq_ok_iff_parse (engine.limited d) text m _).mpr
        ⟨tree, hp', rfl⟩⟩

open Session in
theorem Engine.compile_limited_nestedTally :
    ((tallyEngine.limited 1).compile nestedTally { entropy := ⟨0⟩ }).1 =
        .error (.nestingTooDeep 1 11) ∧
      (tallyEngine.limited 64).compile nestedTally { entropy := ⟨0⟩ } =
        (tallyEngine.limited 3).compile nestedTally { entropy := ⟨0⟩ } := by
  let inner : Expression Routine := ⟨"\\,$\x7bw\x7d", [.text ",", .var "w" 26], .vacant⟩
  let argument : Expression Routine := ⟨"($\x7bv\x7d)$\x7btally(\\,$\x7bw\x7d)\x7d",
    [.text "(", .var "v" 11, .text ")", .call "tally" Library.Samples.tally [inner] 16], .vacant⟩
  have hp : ∀ d, d = 3 ∨ d = 64 →
      parse tallyEngine.registry (tallyEngine.config.limited d) nestedTally = .ok ⟨nestedTally,
        [.text "é", .call "tally" Library.Samples.tally [argument] 2], .vacant⟩ := by
    rintro d (rfl | rfl)
    · rfl
    · rfl
  have hok : ∀ d, d = 3 ∨ d = 64 → ∃ e,
      ((tallyEngine.limited d).compile nestedTally { entropy := ⟨0⟩ }).1 = .ok e ∧
        e.places = [⟨1, 2⟩, ⟨2, 11⟩, ⟨2, 16⟩, ⟨3, 26⟩] := by
    intro d hd
    exact ⟨_, (Grammar.compile_eq_ok_iff_parse _ _ _ _).mpr ⟨_, hp d hd, rfl⟩, rfl⟩
  constructor
  · rcases hok 64 (.inr rfl) with ⟨e, he, hplaces⟩
    have hdeep : 1 < e.nesting := by
      rw [Expression.nesting, hplaces]
      decide
    rcases ((compile_limited tallyEngine nestedTally (by decide : 1 ≤ 64) _).2 e he).2 hdeep
      with ⟨position, hmem, hfirst, herror⟩
    rw [hplaces] at hmem hfirst
    have hle : position ≤ 11 := hfirst ⟨2, 11⟩ (by decide) rfl
    have hcases : position = 11 ∨ position = 16 := by
      simpa using hmem
    have hposition : position = 11 := by
      omega
    rw [← hposition]
    exact herror
  · rcases hok 3 (.inl rfl) with ⟨e, he, -⟩
    apply (compile_limited tallyEngine nestedTally (by decide : 3 ≤ 64) _).1
    intro limit position
    rw [he]
    rintro ⟨⟩

end TextTemplate
