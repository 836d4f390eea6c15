import TextTemplate.Proofs.Compilation
import TextTemplate.Proofs.Offsets
import TextTemplate.Proofs.SessionRuns

/-!
# Layout

Every reference of a compiled tree is written in the text at its position.

* `Expression.nodes` lists the references of a tree, each before those in its arguments, and
  `Piece.placedArguments` the arguments of a call with the offsets at which they start.
* `PiecesLaidOut` relates pieces to the text that they are read from. It holds of what can be
  derived (`Grammar.Template.laidOut`) and of copies (`PiecesLaidOut.relabel`).
* `PiecesLaidOut.nodes`, `PiecesLaidOut.arguments` and `PiecesLaidOut.pairwise` are what follows
  for the nodes of a tree, and `Engine.compile_layout` puts it together.
-/

namespace TextTemplate

universe u v w

variable {α : Type u} {β : Type v} {σ : Type w}

/-- The offset of the `${` of a reference. Plain text has none. -/
def Piece.position : Piece α → Nat
  | .text _ => 0
  | .var _ position => position
  | .call _ _ _ position => position

/-- The ways to write a reference. A call without arguments may do without parentheses. -/
inductive Piece.IsWritten : Piece α → String → Prop where
  | var (name : String) (position : Nat) :
      IsWritten (.var name position) ("$\x7b" ++ name ++ "\x7d")
  | bareCall (key : String) (callee : α) (position : Nat) :
      IsWritten (.call key callee [] position) ("$\x7b" ++ key ++ "\x7d")
  | call (key : String) (callee : α) (arguments : List (Expression α)) (position : Nat) :
      IsWritten (.call key callee arguments position)
        ("$\x7b" ++ key ++ "(" ++ ",".intercalate (arguments.map Expression.raw) ++ ")\x7d")

namespace Expression

mutual

/-- The variables and calls of an expression, each before those in its arguments. -/
def nodes : Expression α → List (Piece α)
  | ⟨_, pieces, _⟩ => nodesOfPieces pieces

/-- The variables and calls in pieces. -/
def nodesOfPieces : List (Piece α) → List (Piece α)
  | [] => []
  | .text _ :: pieces => nodesOfPieces pieces
  | .var name position :: pieces => .var name position :: nodesOfPieces pieces
  | .call key callee arguments position :: pieces =>
    .call key callee arguments position :: (nodesOfArguments arguments ++ nodesOfPieces pieces)

/-- The variables and calls in arguments. -/
def nodesOfArguments : List (Expression α) → List (Piece α)
  | [] => []
  | e :: es => nodes e ++ nodesOfArguments es

end

theorem nodes_eq (e : Expression α) : e.nodes = nodesOfPieces e.pieces := by
  cases e
  rw [nodes]

/-- Expressions that are written one after the other from an offset on, with commas between them,
and where each of them starts. -/
def placedFrom (n : Nat) : List (Expression α) → List (Nat × Expression α)
  | [] => []
  | e :: es => (n, e) :: placedFrom (n + e.raw.utf8ByteSize + 1) es

end Expression

/-- The arguments of a call and where in the text each of them starts. -/
def Piece.placedArguments : Piece α → List (Nat × Expression α)
  | .text _ => []
  | .var _ _ => []
  | .call key _ arguments position =>
    Expression.placedFrom (position + ("$\x7b" ++ key ++ "(").utf8ByteSize) arguments

/-! ## Trees and the texts that they are read from -/

mutual

/-- Pieces that are read from the text `source`, which stands at offset `n`. -/
inductive PiecesLaidOut : Nat → String → List (Piece α) → Prop where
  | nil {n source} : PiecesLaidOut n source []
  | text {n source content pieces} (rest : PiecesLaidOut n source pieces) :
      PiecesLaidOut n source (.text content :: pieces)
  | reference {n skipped source rest piece pieces}
      (first : PieceLaidOut (n + skipped.utf8ByteSize) source piece)
      (others : PiecesLaidOut (n + skipped.utf8ByteSize + source.utf8ByteSize) rest pieces) :
      PiecesLaidOut n (skipped ++ source ++ rest) (piece :: pieces)

/-- A reference that is read from the text `source`, which stands at offset `n`. -/
inductive PieceLaidOut : Nat → String → Piece α → Prop where
  | var {n name} : PieceLaidOut n ("$\x7b" ++ name ++ "\x7d") (.var name n)
  | bareCall {n key callee} : PieceLaidOut n ("$\x7b" ++ key ++ "\x7d") (.call key callee [] n)
  | call {n key callee es}
      (arguments : ArgumentsLaidOut (n + ("$\x7b" ++ key ++ "(").utf8ByteSize) es) :
      PieceLaidOut n
        ("$\x7b" ++ key ++ "(" ++ ",".intercalate (es.map Expression.raw) ++ ")\x7d")
        (.call key callee es n)

/-- Arguments that are read from their raw texts, of which the first one stands at offset `n`. -/
inductive ArgumentsLaidOut : Nat → List (Expression α) → Prop where
  | nil {n} : ArgumentsLaidOut n []
  | cons {n e es} (first : PiecesLaidOut n e.raw e.pieces)
      (others : ArgumentsLaidOut (n + e.raw.utf8ByteSize + 1) es) : ArgumentsLaidOut n (e :: es)

end

/-! ## What can be derived -/

section Derivations

open Grammar

/-- More text in front of pieces makes no difference. -/
theorem PiecesLaidOut.skip {n : Nat} {source : String} {pieces : List (Piece α)} (before : String)
    (h : PiecesLaidOut (n + before.utf8ByteSize) source pieces) :
    PiecesLaidOut n (before ++ source) pieces := by
  induction pieces with
  | nil => exact .nil
  | cons piece pieces ih =>
    cases h with
    | text rest => exact .text (ih rest)
    | @reference _ skipped source rest _ _ first others =>
      have hn : n + before.utf8ByteSize + skipped.utf8ByteSize =
          n + (before ++ skipped).utf8ByteSize := by
        rw [String.utf8ByteSize_append, Nat.add_assoc]
      have hsource : before ++ (skipped ++ source ++ rest) =
          before ++ skipped ++ source ++ rest := by
        simp only [String.append_assoc]
      rw [hn] at first others
      rw [hsource]
      exact .reference first others

theorem PiecesLaidOut.consText {n : Nat} {source : String} {pieces : List (Piece α)} (s : String)
    (h : PiecesLaidOut n source pieces) : PiecesLaidOut n source (consText s pieces) := by
  unfold Grammar.consText
  split
  · cases h with
    | text rest => split <;> exact .text rest
    | reference first => cases first
  · split
    · exact h
    · exact .text h

/-- To put adjacent texts together makes no difference. -/
theorem PiecesLaidOut.mergeTexts {n : Nat} {source : String} {pieces : List (Piece α)}
    (h : PiecesLaidOut n source pieces) : PiecesLaidOut n source (mergeTexts pieces) := by
  induction pieces generalizing n source with
  | nil => exact .nil
  | cons piece pieces ih =>
    cases h with
    | text rest => exact .consText _ (ih rest)
    | reference first others =>
      cases first with
      | var => exact .reference .var (ih others)
      | bareCall => exact .reference .bareCall (ih others)
      | call arguments => exact .reference (.call arguments) (ih others)

theorem size_spelling (us : List Symbol) : (String.ofList (spelling us)).utf8ByteSize = width us :=
  utf8ByteSize_ofList (spelling us)

/-- A symbol that contributes plain text, before more pieces. -/
theorem PiecesLaidOut.plain {n m : Nat} {u : Symbol} {us : List Symbol} {cs : List Char}
    {ps : List (Piece Routine)} (h : PiecesLaidOut m (String.ofList (spelling us)) ps)
    (hm : m = n + width [u]) :
    PiecesLaidOut n (String.ofList (spelling (u :: us))) (plain cs :: ps) := by
  have hs : spelling (u :: us) = spelling [u] ++ spelling us := by
    simp [spelling]
  rw [hs, String.ofList_append]
  apply PiecesLaidOut.text
  apply PiecesLaidOut.skip
  rw [size_spelling, ← hm]
  exact h

/-- A reference before more pieces. -/
theorem PiecesLaidOut.cons {n : Nat} {us vs : List Symbol} {p : Piece Routine}
    {ps : List (Piece Routine)} (first : PieceLaidOut n (String.ofList (spelling us)) p)
    (others : PiecesLaidOut (n + width us) (String.ofList (spelling vs)) ps) :
    PiecesLaidOut n (String.ofList (spelling (us ++ vs))) (p :: ps) := by
  rw [← size_spelling] at others
  have h : PiecesLaidOut n ("" ++ String.ofList (spelling us) ++ String.ofList (spelling vs))
      (p :: ps) := .reference first others
  rw [String.empty_append] at h
  rw [spelling_append, String.ofList_append]
  exact h

theorem ArgumentsLaidOut.callArguments {n : Nat} {es : List (Expression Routine)}
    (h : ArgumentsLaidOut n es) : ArgumentsLaidOut n (callArguments es) := by
  unfold Grammar.callArguments
  split
  · split
    · exact .nil
    · exact h
  · exact h

/-- An argument that is dropped is written as nothing. -/
theorem intercalate_callArguments (es : List (Expression Routine)) :
    ",".intercalate ((callArguments es).map Expression.raw) =
      ",".intercalate (es.map Expression.raw) := by
  unfold Grammar.callArguments
  split
  · rename_i e
    split
    · rename_i he
      simp [he]
    · rfl
  · rfl

namespace Grammar

variable {registry : Registry} {config : EngineConfig}

-- The induction is on the derivation. The offset that it tells is the one at which the symbols are
-- written, and a call counts the octets of its name before its arguments.
mutual

theorem Reference.laidOut : ∀ {depth n : Nat} {us : List Symbol} {p : Piece Routine},
    Reference registry config depth n us p → PieceLaidOut n (String.ofList (spelling us)) p
  | _, _, _, _, .var _ _ _ => by
    rw [spelling_bare]
    exact .var
  | _, _, _, _, .bareCall _ _ _ _ => by
    rw [spelling_bare]
    exact .bareCall
  | _, n, _, _, @Reference.call _ _ _ _ name _ us es _ _ _ arguments _ => by
    rcases arguments.laidOut with ⟨hes, hspelling⟩
    rw [spelling_call, hspelling, ← intercalate_callArguments]
    have hn : n + 2 + utf8Width name + 1 =
        n + ("$\x7b" ++ String.ofList name ++ "(").utf8ByteSize := by
      simp only [String.utf8ByteSize_append, utf8ByteSize_ofList]
      have hopen : "$\x7b".utf8ByteSize = 2 := rfl
      have hparen : "(".utf8ByteSize = 1 := rfl
      omega
    rw [hn] at hes
    exact .call hes.callArguments

theorem Arguments.laidOut : ∀ {depth n : Nat} {us : List Symbol} {es : List (Expression Routine)},
    Arguments registry config depth n us es →
    ArgumentsLaidOut n es ∧ String.ofList (spelling us) = ",".intercalate (es.map Expression.raw)
  | _, _, us, _, @Arguments.last _ _ _ _ _ ps only => by
    constructor
    · exact .cons only.laidOut.mergeTexts .nil
    · simp [argument]
  | _, _, _, _, @Arguments.more _ _ _ n us ps vs es first rest => by
    rcases rest.laidOut with ⟨hes, hspelling⟩
    have hne : es.map Expression.raw ≠ [] := by
      cases rest <;> simp
    constructor
    · apply ArgumentsLaidOut.cons first.laidOut.mergeTexts
      rw [argument, size_spelling]
      exact hes
    · rw [List.map_cons, String.intercalate_cons_of_ne_nil hne, ← hspelling, spelling_append,
        spelling_cons]
      simp only [String.ofList_append]
      simp [argument, Symbol.written, String.append_assoc]

theorem Argument.laidOut : ∀ {depth k n : Nat} {us : List Symbol} {ps : List (Piece Routine)},
    Argument registry config depth k n us ps → PiecesLaidOut n (String.ofList (spelling us)) ps
  | _, _, _, _, _, .nil => .nil
  | _, _, _, _, _, .pair rest => rest.laidOut.plain (by simp [Nat.add_assoc])
  | _, _, _, _, _, .leftParen rest => rest.laidOut.plain (by simp)
  | _, _, _, _, _, .rightParen rest => rest.laidOut.plain (by simp)
  | _, _, _, _, _, .comma rest => rest.laidOut.plain (by simp)
  | _, _, _, _, _, .single _ rest => rest.laidOut.plain (by simp)
  | _, _, _, _, _, .reference inner rest => .cons inner.laidOut rest.laidOut

end

theorem Template.laidOut {n : Nat} {us : List Symbol} {ps : List (Piece Routine)}
    (h : Template registry config n us ps) : PiecesLaidOut n (String.ofList (spelling us)) ps := by
  induction h with
  | nil => exact .nil
  | escape _ ih => exact ih.plain rfl
  | pair _ _ ih => exact ih.plain (by simp [Nat.add_assoc])
  | single _ ih => exact ih.plain (by simp)
  | reference inner _ ih => exact .cons inner.laidOut ih

end Grammar

end Derivations

/-! ## Copies -/

section Copies

open Expression

variable (f : α → σ → β × σ)

theorem raw_relabel (e : Expression α) (s : σ) : (e.relabel f s).1.raw = e.raw := by
  cases e
  simp only [relabel]

theorem map_raw_relabelArguments (es : List (Expression α)) (s : σ) :
    (relabelArguments f es s).1.map Expression.raw = es.map Expression.raw := by
  induction es generalizing s with
  | nil => rfl
  | cons e es ih => simp only [relabelArguments, List.map_cons, raw_relabel, ih]

mutual

/-- A copy of pieces is read from the same text. -/
theorem PiecesLaidOut.relabel : (pieces : List (Piece α)) → {n : Nat} → {source : String} →
    PiecesLaidOut n source pieces → (s : σ) →
    PiecesLaidOut n source (relabelPieces f pieces s).1
  | [], _, _, _, _ => .nil
  | .text _ :: pieces, _, _, h, s => by
    simp only [relabelPieces]
    cases h with
    | text rest => exact .text (PiecesLaidOut.relabel pieces rest s)
    | reference first => cases first
  | .var _ _ :: pieces, _, _, h, s => by
    simp only [relabelPieces]
    cases h with
    | reference first others =>
      cases first
      exact .reference .var (PiecesLaidOut.relabel pieces others s)
  | .call _ _ arguments _ :: pieces, _, _, h, s => by
    simp only [relabelPieces]
    cases h with
    | reference first others =>
      cases first with
      | bareCall =>
        simp only [relabelArguments]
        exact .reference .bareCall (PiecesLaidOut.relabel pieces others _)
      | call hes =>
        rw [← map_raw_relabelArguments f arguments s] at others ⊢
        exact .reference (.call (ArgumentsLaidOut.relabel arguments hes s))
          (PiecesLaidOut.relabel pieces others _)

theorem ArgumentsLaidOut.relabel : (es : List (Expression α)) → {n : Nat} →
    ArgumentsLaidOut n es → (s : σ) → ArgumentsLaidOut n (relabelArguments f es s).1
  | [], _, _, _ => .nil
  | ⟨raw, pieces, cache⟩ :: es, _, h, s => by
    cases h with
    | cons first others =>
      simp only [relabelArguments, Expression.relabel]
      exact .cons (PiecesLaidOut.relabel pieces first s) (ArgumentsLaidOut.relabel es others _)

end

end Copies

/-! ## Nodes -/

section Nodes

open Expression

variable {n k : Nat} {source : String} {piece node : Piece α} {pieces : List (Piece α)}
  {es : List (Expression α)} {e : Expression α}

/-- A reference is written in `source`, which stands at offset `n` of the text, at its position. -/
def HasNode (n : Nat) (source : String) (node : Piece α) : Prop :=
  ∃ offset part, WrittenAt source offset part ∧ PieceLaidOut (n + offset) part node

theorem PieceLaidOut.isWritten (h : PieceLaidOut n source piece) : piece.IsWritten source := by
  cases h with
  | var => exact .var _ _
  | bareCall => exact .bareCall _ _ _
  | call => exact .call _ _ _ _

theorem PieceLaidOut.position_eq (h : PieceLaidOut n source piece) : piece.position = n := by
  cases h <;> rfl

/-- A reference is written with at least one character. -/
theorem PieceLaidOut.size_pos (h : PieceLaidOut n source piece) : 0 < source.utf8ByteSize := by
  have hopen : "$\x7b".utf8ByteSize = 2 := rfl
  cases h <;> simp only [String.utf8ByteSize_append] <;> omega

theorem HasNode.trans {middle : String} (h : HasNode (n + k) middle node)
    (hm : WrittenAt source k middle) : HasNode n source node := by
  rcases h with ⟨offset, part, hp, hnode⟩
  rw [Nat.add_assoc] at hnode
  exact ⟨k + offset, part, hm.trans hp, hnode⟩

theorem HasNode.bounds (h : HasNode n source node) :
    n ≤ node.position ∧ node.position < n + source.utf8ByteSize := by
  rcases h with ⟨offset, part, hp, hnode⟩
  have hposition := hnode.position_eq
  have hpos := hnode.size_pos
  have hle := hp.le_size
  omega

theorem HasNode.of_rest {before rest : String} (h : HasNode (n + before.utf8ByteSize) rest node) :
    HasNode n (before ++ rest) node :=
  h.trans (.last before rest)

/-- The raw text of the first argument. -/
theorem writtenAt_first (raw : String) (raws : List String) :
    WrittenAt (",".intercalate (raw :: raws)) 0 raw := by
  by_cases hraws : raws = []
  · rw [hraws, String.intercalate_singleton]
    exact .self raw
  · rw [String.intercalate_cons_of_ne_nil hraws, String.append_assoc]
    exact (WrittenAt.self raw).append _

/-- The raw texts of the arguments after the first one. -/
theorem writtenAt_others (raw : String) {raws : List String} (h : raws ≠ []) :
    WrittenAt (",".intercalate (raw :: raws)) (raw.utf8ByteSize + 1) (",".intercalate raws) := by
  rw [String.intercalate_cons_of_ne_nil h]
  have hlast := WrittenAt.last (raw ++ ",") (",".intercalate raws)
  rw [String.utf8ByteSize_append] at hlast
  exact hlast

/-- Where the arguments of a call are written. -/
theorem writtenAt_arguments (key raws : String) :
    WrittenAt ("$\x7b" ++ key ++ "(" ++ raws ++ ")\x7d") ("$\x7b" ++ key ++ "(").utf8ByteSize
      raws :=
  .mid _ _ _

-- The induction is on the tree, so that what is known of a node is the text of the smallest
-- reference or argument that it is in; `HasNode.trans` carries this outwards.
mutual

/-- Every reference in pieces is written in the text that they are read from. -/
theorem PiecesLaidOut.nodes : (pieces : List (Piece α)) → {n : Nat} → {source : String} →
    PiecesLaidOut n source pieces → ∀ node ∈ nodesOfPieces pieces, HasNode n source node
  | [], _, _, _, node, hm => by cases hm
  | .text _ :: pieces, _, _, h, node, hm => by
    cases h with
    | text rest => exact PiecesLaidOut.nodes pieces rest node hm
    | reference first => cases first
  | .var _ _ :: pieces, n, _, h, node, hm => by
    cases h with
    | reference first others =>
      rcases List.mem_cons.mp hm with rfl | hm
      · exact ⟨_, _, .mid _ _ _, first⟩
      · apply HasNode.of_rest
        rw [String.utf8ByteSize_append, ← Nat.add_assoc]
        exact PiecesLaidOut.nodes pieces others node hm
  | .call key callee arguments position :: pieces, n, _, h, node, hm => by
    cases h with
    | @reference _ skipped source _ _ _ first others =>
      simp only [nodesOfPieces, List.mem_cons, List.mem_append] at hm
      rcases hm with rfl | hm | hm
      · exact ⟨_, _, .mid _ _ _, first⟩
      · have hnode : HasNode (n + skipped.utf8ByteSize) source node := by
          cases first with
          | bareCall => cases hm
          | call hes =>
            exact (ArgumentsLaidOut.nodes arguments hes node hm).trans (writtenAt_arguments _ _)
        exact hnode.trans (.mid _ _ _)
      · apply HasNode.of_rest
        rw [String.utf8ByteSize_append, ← Nat.add_assoc]
        exact PiecesLaidOut.nodes pieces others node hm

theorem ArgumentsLaidOut.nodes : (es : List (Expression α)) → {n : Nat} →
    ArgumentsLaidOut n es → ∀ node ∈ nodesOfArguments es,
    HasNode n (",".intercalate (es.map Expression.raw)) node
  | [], _, _, node, hm => by cases hm
  | ⟨raw, pieces, cache⟩ :: es, n, h, node, hm => by
    cases h with
    | cons first others =>
      rcases List.mem_append.mp hm with hm | hm
      · have hnode : HasNode (n + 0) raw node := PiecesLaidOut.nodes pieces first node hm
        exact hnode.trans (writtenAt_first _ _)
      · have hne : es.map Expression.raw ≠ [] := by
          cases es with
          | nil => cases hm
          | cons => exact List.cons_ne_nil _ _
        have hnode := ArgumentsLaidOut.nodes es others node hm
        rw [Nat.add_assoc] at hnode
        exact hnode.trans (writtenAt_others raw hne)

end

/-- Every argument is written where it is placed. -/
theorem ArgumentsLaidOut.placed (h : ArgumentsLaidOut n es) (hm : (k, e) ∈ placedFrom n es) :
    PiecesLaidOut k e.raw e.pieces ∧
      ∃ offset, WrittenAt (",".intercalate (es.map Expression.raw)) offset e.raw ∧
        k = n + offset := by
  induction es generalizing n with
  | nil => cases hm
  | cons e' es ih =>
    cases h with
    | cons first others =>
      rcases List.mem_cons.mp hm with heq | hm
      · cases heq
        exact ⟨first, 0, writtenAt_first _ _, rfl⟩
      · rcases ih others hm with ⟨he, offset, hw, rfl⟩
        have hne : es.map Expression.raw ≠ [] := by
          cases es with
          | nil => cases hm
          | cons => exact List.cons_ne_nil _ _
        refine ⟨he, _, (writtenAt_others e'.raw hne).trans hw, ?_⟩
        omega

/-- Every argument of a call is written where it is placed. -/
theorem PieceLaidOut.arguments (h : PieceLaidOut n source piece)
    (hm : (k, e) ∈ piece.placedArguments) :
    PiecesLaidOut k e.raw e.pieces ∧ ∃ offset, WrittenAt source offset e.raw ∧ k = n + offset := by
  cases h with
  | var => cases hm
  | bareCall => cases hm
  | call hes =>
    rcases hes.placed hm with ⟨he, offset, hw, rfl⟩
    refine ⟨he, _, (writtenAt_arguments _ _).trans hw, ?_⟩
    omega

/-! ### Order -/

theorem nodesOfPieces_cons (piece : Piece α) (pieces : List (Piece α)) :
    nodesOfPieces (piece :: pieces) = nodesOfPieces [piece] ++ nodesOfPieces pieces := by
  cases piece <;> simp [nodesOfPieces]

/-- Texts that are put together are no references. -/
theorem nodesOfPieces_mergeTexts (pieces : List (Piece α)) :
    nodesOfPieces (Grammar.mergeTexts pieces) = nodesOfPieces pieces := by
  apply Grammar.apply_mergeTexts nodesOfPieces (fun _ _ => rfl)
  intro piece ps qs h
  rw [nodesOfPieces_cons piece ps, nodesOfPieces_cons piece qs, h]

theorem PieceLaidOut.singleton (h : PieceLaidOut n source piece) :
    PiecesLaidOut n source [piece] := by
  have hp : PiecesLaidOut n ("" ++ source ++ "") [piece] := .reference h .nil
  rwa [String.empty_append, String.append_empty] at hp

theorem ArgumentsLaidOut.le_position (h : ArgumentsLaidOut n es) (hm : node ∈ nodesOfArguments es) :
    n ≤ node.position :=
  (h.nodes es node hm).bounds.1

-- Each part of a tree has its nodes within its own text, and the texts follow one another.
mutual

/-- Positions increase from each reference to the next one. -/
theorem PiecesLaidOut.pairwise : ∀ {n : Nat} {source : String} {pieces : List (Piece α)},
    PiecesLaidOut n source pieces →
    (nodesOfPieces pieces).Pairwise fun a b => a.position < b.position
  | _, _, _, .nil => .nil
  | _, _, _, .text rest => rest.pairwise
  | n, _, _, @PiecesLaidOut.reference _ _ skipped source rest piece pieces first others => by
    rw [nodesOfPieces_cons, List.pairwise_append]
    refine ⟨first.pairwise, others.pairwise, ?_⟩
    intro a ha b hb
    have hbefore := (first.singleton.nodes _ a ha).bounds.2
    have hafter := (others.nodes _ b hb).bounds.1
    omega

theorem PieceLaidOut.pairwise : ∀ {n : Nat} {source : String} {piece : Piece α},
    PieceLaidOut n source piece →
    (nodesOfPieces [piece]).Pairwise fun a b => a.position < b.position
  | _, _, _, .var => List.pairwise_singleton _ _
  | _, _, _, .bareCall => List.pairwise_singleton _ _
  | n, _, _, @PieceLaidOut.call _ _ key callee es arguments => by
    simp only [nodesOfPieces, List.append_nil, List.pairwise_cons]
    refine ⟨?_, arguments.pairwise⟩
    intro b hb
    have hafter := arguments.le_position hb
    have hopen : "$\x7b".utf8ByteSize = 2 := rfl
    simp only [String.utf8ByteSize_append] at hafter
    show n < b.position
    omega

theorem ArgumentsLaidOut.pairwise : ∀ {n : Nat} {es : List (Expression α)},
    ArgumentsLaidOut n es →
    (nodesOfArguments es).Pairwise fun a b => a.position < b.position
  | _, _, .nil => .nil
  | n, _, @ArgumentsLaidOut.cons _ _ e es first others => by
    rw [nodesOfArguments, nodes_eq, List.pairwise_append]
    refine ⟨first.pairwise, others.pairwise, ?_⟩
    intro a ha b hb
    have hbefore := (first.nodes _ a ha).bounds.2
    have hafter := others.le_position hb
    omega

end

end Nodes

/-! ## Compilation -/

open Grammar in
/-- The pieces of a tree are read from the whole text. -/
theorem laidOut_of_parse {registry : Registry} {config : EngineConfig} {text : String}
    {tree : Expression Routine} (h : parse registry config text = .ok tree) :
    PiecesLaidOut 0 text tree.pieces := by
  rcases derives_of_parse h with ⟨us, ps, hs, ht, rfl⟩
  have hlaid := ht.laidOut.mergeTexts
  rw [hs.spelling_eq, String.ofList_toList] at hlaid
  exact hlaid

/-- A compiled text has every reference of its tree at the position that the tree tells, with its
name, or with its key and the raw texts of its arguments. Those in an argument are within the text
of the argument, and each reference stands before the next one. -/
theorem Engine.compile_layout {engine : Engine} {text : String} {m : Machine} {e : LiveExpression}
    (h : (engine.compile text m).1 = .ok e) :
    (∀ node ∈ e.nodes, ∃ part, node.IsWritten part ∧ WrittenAt text node.position part) ∧
    (∀ node ∈ e.nodes, ∀ start argument, (start, argument) ∈ node.placedArguments →
      WrittenAt text start argument.raw ∧
      ∀ inner ∈ argument.nodes, ∃ part,
        inner.IsWritten part ∧ WrittenAt text inner.position part ∧ start ≤ inner.position ∧
        inner.position + part.utf8ByteSize ≤ start + argument.raw.utf8ByteSize) ∧
    e.nodes.Pairwise fun a b => a.position < b.position := by
  rcases (Grammar.compile_eq_ok_iff_parse engine text m e).mp h with ⟨⟨raw, pieces, cache⟩, hp, rfl⟩
  have hlaid : PiecesLaidOut 0 text _ := PiecesLaidOut.relabel
    (fun routine (store : Store) => store.create routine) pieces (laidOut_of_parse hp) m.store
  simp only [Expression.instantiate, Expression.relabel, Expression.nodes]
  refine ⟨?_, ?_, hlaid.pairwise⟩
  · intro node hm
    rcases hlaid.nodes _ node hm with ⟨offset, part, hw, hnode⟩
    rw [Nat.zero_add] at hnode
    exact ⟨part, hnode.isWritten, hnode.position_eq ▸ hw⟩
  · intro node hm start argument ha
    rcases hlaid.nodes _ node hm with ⟨offset, source, hw, hnode⟩
    rw [Nat.zero_add] at hnode
    rcases hnode.arguments ha with ⟨hargument, k, hk, rfl⟩
    have hraw : WrittenAt text (offset + k) argument.raw := hw.trans hk
    refine ⟨hraw, ?_⟩
    intro inner hinner
    rw [Expression.nodes_eq] at hinner
    rcases hargument.nodes _ inner hinner with ⟨j, part, hj, hpart⟩
    have hposition := hpart.position_eq
    have hle := hj.le_size
    refine ⟨part, hpart.isWritten, ?_, by omega, by omega⟩
    rw [hposition]
    exact hraw.trans hj

/-- Calls in arguments of calls, after a character of two octets, with a plain parenthesis and a
quoted comma. -/
def nestedTally : String := "é$\x7btally(($\x7bv\x7d)$\x7btally(\\,$\x7bw\x7d)\x7d)\x7d"

open Session in
theorem Engine.compile_layout_nestedTally :
    ∃ e : LiveExpression, (tallyEngine.compile nestedTally { entropy := ⟨0⟩ }).1 = .ok e ∧
      e.nodes.map Piece.position = [2, 11, 16, 26] ∧
      ∀ node ∈ e.nodes, ∃ part, node.IsWritten part ∧ WrittenAt nestedTally node.position part := by
  let inner : Expression Routine := ⟨"\\,$\x7bw\x7d", [.text ",", .var "w" 26], .vacant⟩
  let argument : Expression Routine := ⟨"($\x7bv\x7d)$\x7btally(\\,$\x7bw\x7d)\x7d",
    [.text "(", .var "v" 11, .text ")", .call "tally" Library.Samples.tally [inner] 16], .vacant⟩
  have hp : parse tallyEngine.registry tallyEngine.config nestedTally = .ok ⟨nestedTally,
      [.text "é", .call "tally" Library.Samples.tally [argument] 2], .vacant⟩ := rfl
  have h := (Grammar.compile_eq_ok_iff_parse tallyEngine _ { entropy := ⟨0⟩ } _).mpr ⟨_, hp, rfl⟩
  exact ⟨_, h, rfl, (compile_layout h).1⟩

end TextTemplate
