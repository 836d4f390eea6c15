import TextTemplate.Proofs.Instances

/-!
# Caches

A text that is remembered in a live expression is the plain text of the pieces it stands for.

* `Expression.Sound` says so of every cache in a tree, those of arguments included.
* It is kept by evaluations and holds of copies, so that it holds of all live expressions at all
  times (`Session.stable_sound`).
* `Machine.executions` are the executions in the trace, and `Machine.history` is the trace without
  the notes that texts begin to be remembered.
-/

namespace TextTemplate

namespace Expression

universe u v w

variable {α : Type u} {β : Type v} {σ : Type w}

/-- Whether there are no calls and variables among pieces. -/
def allPlain (pieces : List (Piece α)) : Bool := pieces.all (!·.isDynamic)

/-- The plain text of pieces. -/
def plainText : List (Piece α) → String
  | [] => ""
  | .text content :: pieces => content ++ plainText pieces
  | .var _ _ :: pieces => plainText pieces
  | .call _ _ _ _ :: pieces => plainText pieces

mutual

/-- Texts are remembered only where there are no calls and variables, and they are the plain text
of the pieces. -/
def Sound : Expression α → Prop
  | ⟨_, pieces, cache⟩ =>
    (∀ text, cache = .filled text → allPlain pieces = true ∧ text = plainText pieces) ∧
      SoundPieces pieces

/-- The texts remembered in the arguments of calls are sound. -/
def SoundPieces : List (Piece α) → Prop
  | [] => True
  | .text _ :: pieces => SoundPieces pieces
  | .var _ _ :: pieces => SoundPieces pieces
  | .call _ _ arguments _ :: pieces => SoundArguments arguments ∧ SoundPieces pieces

/-- The texts remembered in arguments are sound. -/
def SoundArguments : List (Expression α) → Prop
  | [] => True
  | e :: es => e.Sound ∧ SoundArguments es

end

/-! ## Plain pieces -/

/-- Plain pieces are their own value. -/
theorem evaluatePieces_of_allPlain (scene : Scene) {pieces : List (Piece InstanceId)}
    (h : allPlain pieces = true) (m : Machine) :
    evaluatePieces scene pieces m = (plainText pieces, pieces, m) := by
  induction pieces with
  | nil => rfl
  | cons piece pieces ih =>
    simp only [allPlain, List.all_cons, Bool.and_eq_true] at h
    cases piece with
    | text content => simp [evaluatePieces, plainText, ih h.2]
    | var | call => simp [Piece.isDynamic] at h

/-! ## Copies -/

section Copies

variable (f : α → σ → β × σ)

mutual

/-- A copy remembers nothing. -/
theorem sound_relabel : (e : Expression α) → (s : σ) → (e.relabel f s).1.Sound
  | ⟨_, pieces, cache⟩, s => by
    simp only [relabel, Sound]
    refine ⟨?_, sound_relabelPieces pieces s⟩
    intro text h
    cases cache <;> cases h

theorem sound_relabelPieces : (pieces : List (Piece α)) → (s : σ) →
    SoundPieces (relabelPieces f pieces s).1
  | [], _ => trivial
  | .text _ :: pieces, s => by
    simpa only [relabelPieces, SoundPieces] using sound_relabelPieces pieces s
  | .var _ _ :: pieces, s => by
    simpa only [relabelPieces, SoundPieces] using sound_relabelPieces pieces s
  | .call _ _ arguments _ :: pieces, s => by
    simp only [relabelPieces, SoundPieces]
    exact ⟨sound_relabelArguments arguments s, sound_relabelPieces pieces _⟩

theorem sound_relabelArguments : (es : List (Expression α)) → (s : σ) →
    SoundArguments (relabelArguments f es s).1
  | [], _ => trivial
  | e :: es, s => by
    simp only [relabelArguments, SoundArguments]
    exact ⟨sound_relabel e s, sound_relabelArguments es _⟩

end

end Copies

theorem sound_duplicate (e : LiveExpression) (deep : Bool) (store : Store) :
    (e.duplicate deep store).1.Sound := by
  cases deep with
  | true => exact sound_relabel _ e store
  | false => exact sound_relabel _ e ()

/-! ## Evaluations -/

theorem allPlain_uncachedPieces (pieces : List (Piece α)) :
    allPlain (uncachedPieces pieces) = allPlain pieces := by
  simp [allPlain, uncachedPieces_eq_map, Function.comp_def]

theorem allPlain_evaluatePieces (scene : Scene) (pieces : List (Piece InstanceId))
    (m : Machine) : allPlain (evaluatePieces scene pieces m).2.1 = allPlain pieces := by
  rw [← allPlain_uncachedPieces, evaluatePieces_uncached, allPlain_uncachedPieces]

/-- What may be remembered of pieces after their evaluation is their plain text. -/
theorem sound_remember (scene : Scene) (raw : String) (pieces : List (Piece InstanceId))
    (cache : Cache) (hc : cache.text? = none) (m : Machine)
    (h : SoundPieces (evaluatePieces scene pieces m).2.1) :
    (remember raw (evaluatePieces scene pieces m).2.1 cache (evaluatePieces scene pieces m).1
      (evaluatePieces scene pieces m).2.2).1.Sound := by
  unfold remember
  split
  · -- Only the text of plain pieces is remembered, and these are their own value.
    rename_i hr
    have hp : allPlain (evaluatePieces scene pieces m).2.1 = true :=
      (Bool.and_eq_true _ _ ▸ hr).2
    refine ⟨fun text ht => ⟨hp, ?_⟩, h⟩
    cases ht
    rw [allPlain_evaluatePieces] at hp
    rw [evaluatePieces_of_allPlain scene hp]
  · refine ⟨fun text ht => ?_, h⟩
    subst ht
    cases hc

mutual

/-- An evaluation remembers nothing but values of plain pieces. -/
theorem sound_evaluate (scene : Scene) : (e : LiveExpression) → (m : Machine) → e.Sound →
    (e.evaluate scene m).2.1.Sound
  | ⟨_, _, .filled _⟩, _, h => by simpa only [evaluate] using h
  | ⟨raw, pieces, .disabled⟩, m, h => by
    have hp := sound_evaluatePieces scene pieces m h.2
    simpa only [evaluate] using sound_remember scene raw pieces .disabled rfl m hp
  | ⟨raw, pieces, .vacant⟩, m, h => by
    have hp := sound_evaluatePieces scene pieces m h.2
    simpa only [evaluate] using sound_remember scene raw pieces .vacant rfl m hp

theorem sound_evaluatePieces (scene : Scene) : (pieces : List (Piece InstanceId)) →
    (m : Machine) → SoundPieces pieces → SoundPieces (evaluatePieces scene pieces m).2.1
  | [], _, _ => trivial
  | .text _ :: pieces, m, h => by
    simpa only [evaluatePieces, SoundPieces] using sound_evaluatePieces scene pieces m h
  | .var _ _ :: pieces, m, h => by
    simpa only [evaluatePieces, SoundPieces] using sound_evaluatePieces scene pieces m h
  | .call _ _ arguments _ :: pieces, m, h => by
    simp only [evaluatePieces, SoundPieces]
    exact ⟨sound_evaluateArguments scene arguments m h.1, sound_evaluatePieces scene pieces _ h.2⟩

theorem sound_evaluateArguments (scene : Scene) : (es : List LiveExpression) →
    (m : Machine) → SoundArguments es → SoundArguments (evaluateArguments scene es m).2.1
  | [], _, _ => trivial
  | e :: es, m, h => by
    simp only [evaluateArguments, SoundArguments]
    exact ⟨sound_evaluate scene e m h.1, sound_evaluateArguments scene es _ h.2⟩

end

end Expression

/-! ## What is in the trace -/

/-- The instance and the arguments of an execution, if an event is one. -/
def Event.execution? : Event → Option (InstanceId × List String)
  | .executed id _ arguments => some (id, arguments)
  | .fileRead _ => none
  | .logged _ => none

/-- Whether an event is the note that a text begins to be remembered. -/
def Event.isCachingNote : Event → Bool
  | .logged ⟨.trace, message⟩ => "Caching static result of '".toList.isPrefixOf message.toList
  | _ => false

@[simp]
theorem isCachingNote_cachingRecord (raw : String) :
    (Event.logged (cachingRecord raw)).isCachingNote = true := by
  simp only [cachingRecord, Event.isCachingNote, List.isPrefixOf_iff_prefix,
    String.toList_append, List.append_assoc]
  exact List.prefix_append _ _

@[simp]
theorem isCachingNote_failureRecord (key : String) (position : Nat) (e : InvocationError) :
    (Event.logged (failureRecord key position e)).isCachingNote = false := rfl

namespace Machine

/-- The executions so far, in order. -/
def executions (m : Machine) : List (InstanceId × List String) :=
  m.trace.toList.filterMap Event.execution?

@[simp]
theorem executions_append (m : Machine) (events : List Event) :
    (m.append events).executions = m.executions ++ events.filterMap Event.execution? := by
  simp [executions, append]

/-- Among the events of an execution, it is the only execution. -/
@[simp]
theorem executions_eventsOf (id : InstanceId) (inst : Instance) (arguments : List String)
    (reply : Reply inst.routine.State) :
    (eventsOf id inst arguments reply).filterMap Event.execution? = [(id, arguments)] := by
  simp [eventsOf, Event.execution?, List.filterMap_map, Function.comp_def]

/-- Records of the log are no executions. -/
@[simp]
theorem executions_append_logged (m : Machine) (records : List LogRecord) :
    (m.append (records.map .logged)).executions = m.executions := by
  simp [List.filterMap_map, Function.comp_def, Event.execution?]

/-- What happened, apart from the notes that texts begin to be remembered. -/
def history (m : Machine) : List Event := m.trace.toList.filter (!·.isCachingNote)

@[simp]
theorem history_append (m : Machine) (events : List Event) :
    (m.append events).history = m.history ++ events.filter (!·.isCachingNote) := by
  simp [history, append]

@[simp]
theorem history_log_cachingRecord (m : Machine) (raw : String) :
    (m.log (cachingRecord raw)).history = m.history := by
  simp [log]

end Machine

namespace Session

/-- The caches of live expressions are sound at all times. -/
theorem stable_sound : Stable fun _ e => e.Sound where
  grows _ h := h
  empty _ := by simp [Expression.empty, Expression.Sound, Expression.SoundPieces]
  instantiate parsed store := Expression.sound_relabel _ parsed store
  evaluate scene m h := Expression.sound_evaluate scene _ m h
  duplicate deep _ _ := Expression.sound_duplicate _ deep _

end Session

end TextTemplate
