import TextTemplate.Proofs.Caching
import TextTemplate.Proofs.Grammar

/-!
# Plain text

Pieces without calls and variables, and what they evaluate to.

* Neither to put adjacent texts together nor to copy pieces makes a difference to whether they are
  plain and to their plain text.
* `Expression.evaluate_of_isPureLiteral`: a pure literal has its plain text as its value.
* `Expression.after` is an expression as evaluations leave it behind. They make no difference to
  its later evaluations (`Expression.evaluate_after`).
-/

namespace TextTemplate.Expression

universe u v w

variable {α : Type u} {β : Type v} {σ : Type w}

open Grammar (consText mergeTexts)

theorem allPlain_cons (piece : Piece α) (pieces : List (Piece α)) :
    allPlain (piece :: pieces) = (!piece.isDynamic && allPlain pieces) := by
  rw [allPlain, List.all_cons, allPlain]

theorem allPlain_consText (s : String) (pieces : List (Piece α)) :
    allPlain (consText s pieces) = allPlain pieces := by
  unfold consText
  split <;> split <;> simp [allPlain, Piece.isDynamic]

theorem plainText_consText (s : String) (pieces : List (Piece α)) :
    plainText (consText s pieces) = s ++ plainText pieces := by
  by_cases hs : s = ""
  · subst hs
    rw [String.empty_append]
    unfold consText
    split <;> rfl
  · unfold consText
    split
    · rw [if_neg hs, plainText, plainText, String.append_assoc]
    · rw [if_neg hs, plainText]

theorem allPlain_mergeTexts (pieces : List (Piece α)) :
    allPlain (mergeTexts pieces) = allPlain pieces := by
  induction pieces with
  | nil => rfl
  | cons piece pieces ih =>
    cases piece with
    | text s => rw [mergeTexts, allPlain_consText, ih, allPlain_cons]; rfl
    | var | call => rfl

theorem plainText_mergeTexts (pieces : List (Piece α)) :
    plainText (mergeTexts pieces) = plainText pieces := by
  induction pieces with
  | nil => rfl
  | cons piece pieces ih =>
    cases piece with
    | text s => rw [mergeTexts, plainText_consText, ih, plainText]
    | var | call => simp [mergeTexts, plainText, ih]

theorem allPlain_relabelPieces (f : α → σ → β × σ) (pieces : List (Piece α)) (s : σ) :
    allPlain (relabelPieces f pieces s).1 = allPlain pieces := by
  induction pieces generalizing s with
  | nil => rfl
  | cons piece pieces ih =>
    cases piece <;> simp [relabelPieces, allPlain_cons, Piece.isDynamic, ih]

theorem plainText_relabelPieces (f : α → σ → β × σ) (pieces : List (Piece α)) (s : σ) :
    plainText (relabelPieces f pieces s).1 = plainText pieces := by
  induction pieces generalizing s with
  | nil => rfl
  | cons piece pieces ih =>
    cases piece <;> simp [relabelPieces, plainText, ih]

theorem isPureLiteral_relabel (f : α → σ → β × σ) (e : Expression α) (s : σ) :
    (e.relabel f s).1.isPureLiteral = e.isPureLiteral := by
  rcases e with ⟨raw, pieces, cache⟩
  exact allPlain_relabelPieces f pieces s

theorem plainText_relabel (f : α → σ → β × σ) (e : Expression α) (s : σ) :
    plainText (e.relabel f s).1.pieces = plainText e.pieces := by
  rcases e with ⟨raw, pieces, cache⟩
  exact plainText_relabelPieces f pieces s

/-- No state is passed on by plain pieces. -/
theorem relabelPieces_of_allPlain (f : α → σ → β × σ) {pieces : List (Piece α)}
    (h : allPlain pieces = true) (s : σ) : (relabelPieces f pieces s).2 = s := by
  induction pieces with
  | nil => rfl
  | cons piece pieces ih =>
    rw [allPlain_cons, Bool.and_eq_true] at h
    cases piece with
    | text content => simp [relabelPieces, ih h.2]
    | var | call => cases h.1

/-- Copies of pure literals are pure literals with the same texts. -/
theorem relabelArguments_of_isPureLiteral (f : α → σ → β × σ) {es : List (Expression α)}
    (h : ∀ e ∈ es, e.isPureLiteral = true) (s : σ) :
    (relabelArguments f es s).2 = s ∧
      (∀ e ∈ (relabelArguments f es s).1, e.isPureLiteral = true) ∧
      (relabelArguments f es s).1.map (fun e => plainText e.pieces) =
        es.map fun e => plainText e.pieces := by
  induction es with
  | nil =>
    refine ⟨rfl, ?_, rfl⟩
    intro e he
    cases he
  | cons e es ih =>
    rcases List.forall_mem_cons.mp h with ⟨he, hes⟩
    rcases ih hes with ⟨hstate, hpure, htexts⟩
    have hfirst : (e.relabel f s).2 = s := by
      rcases e with ⟨raw, pieces, cache⟩
      exact relabelPieces_of_allPlain f he s
    simp only [relabelArguments, hfirst]
    refine ⟨hstate, List.forall_mem_cons.mpr ⟨?_, hpure⟩, ?_⟩
    · rw [isPureLiteral_relabel, he]
    · rw [List.map_cons, List.map_cons, plainText_relabel, htexts]

/-! ## Evaluations -/

/-- A pure literal evaluates to its plain text, which has no effect. -/
theorem evaluate_of_isPureLiteral {e : LiveExpression} (h : e.Sound) (hp : e.isPureLiteral = true)
    (scene : Scene) (m : Machine) :
    (e.evaluate scene m).1 = plainText e.pieces ∧ (e.evaluate scene m).2.2.Alike m := by
  rcases e with ⟨raw, pieces, cache⟩
  have hpieces := evaluatePieces_of_allPlain scene hp m
  cases cache with
  | filled text => exact ⟨(h.1 text rfl).2, .refl m⟩
  | disabled | vacant =>
    rw [evaluate_of_unfilled scene raw pieces rfl, hpieces]
    exact ⟨rfl, Machine.alike_remember raw _ _ _ m⟩

theorem evaluateArguments_of_isPureLiteral {es : List LiveExpression} (h : SoundArguments es)
    (hp : ∀ e ∈ es, e.isPureLiteral = true) (scene : Scene) (m : Machine) :
    (evaluateArguments scene es m).1 = es.map (fun e => plainText e.pieces) ∧
      (evaluateArguments scene es m).2.2.Alike m := by
  induction es generalizing m with
  | nil => exact ⟨rfl, .refl m⟩
  | cons e es ih =>
    rcases List.forall_mem_cons.mp hp with ⟨he, hes⟩
    rcases evaluate_of_isPureLiteral h.1 he scene m with ⟨htext, hm⟩
    rcases ih h.2 hes (e.evaluate scene m).2.2 with ⟨htexts, hms⟩
    simp only [evaluateArguments, htext, htexts, List.map_cons, true_and]
    exact hms.trans hm

/-- An expression after evaluations in these scenes, each from any machine. -/
def after : LiveExpression → List (Scene × Machine) → LiveExpression
  | e, [] => e
  | e, (scene, m) :: turns => (e.evaluate scene m).2.1.after turns

theorem sound_after {e : LiveExpression} (h : e.Sound) (turns : List (Scene × Machine)) :
    (e.after turns).Sound := by
  induction turns generalizing e with
  | nil => exact h
  | cons turn turns ih => exact ih (sound_evaluate turn.1 e turn.2 h)

theorem after_uncached (e : LiveExpression) (turns : List (Scene × Machine)) :
    (e.after turns).uncached = e.uncached := by
  induction turns generalizing e with
  | nil => rfl
  | cons turn turns ih => rw [after, ih, evaluate_uncached]

/-- Earlier evaluations make no difference to an expression but for what it remembers. -/
theorem evaluate_after {e : LiveExpression} (h : e.Sound) (turns : List (Scene × Machine))
    (scene : Scene) (m : Machine) :
    ((e.after turns).evaluate scene m).1 = (e.evaluate scene m).1 ∧
      ((e.after turns).evaluate scene m).2.2.Alike (e.evaluate scene m).2.2 :=
  evaluate_alike scene (after_uncached e turns) (sound_after h turns) h (.refl m)

end TextTemplate.Expression
