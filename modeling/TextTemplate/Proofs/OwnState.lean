import TextTemplate.Library

/-!
# Routines with a state of their own

What a call of a routine gives can depend on the call, on the state of the instance, on the number
of its family and on the generator. Few routines look at the last two.

* `Routine.IgnoresEntropy` and `Routine.Solitary` say that a routine does not.
* `Library.ignoresEntropy_of_mem` and `Library.solitary_of_mem`: it holds of all routines of the
  library but those that draw random words, and a counter that counts for its family.
-/

namespace TextTemplate

namespace Routine

/-- Draws from the generator make no difference to the results of a routine. -/
def IgnoresEntropy (routine : Routine) : Prop :=
  ∀ (call : Call) (entropy : Entropy) (state : routine.State),
    (routine.run { call with entropy } state).result = (routine.run call state).result

/-- A routine with these arguments goes by what an evaluation sees and by its state, and by nothing
that it has in common with other instances. -/
def Solitary (routine : Routine) (arguments : List String) : Prop :=
  ∀ (scene : Scene) (shared shared' : UInt64) (entropy entropy' : Entropy)
    (state : routine.State),
    (routine.run ⟨scene, arguments, shared, entropy⟩ state).result =
        (routine.run ⟨scene, arguments, shared', entropy'⟩ state).result ∧
      (routine.run ⟨scene, arguments, shared, entropy⟩ state).state =
        (routine.run ⟨scene, arguments, shared', entropy'⟩ state).state

theorem ignoresEntropy_of_solitary {routine : Routine}
    (h : ∀ arguments, routine.Solitary arguments) : routine.IgnoresEntropy :=
  fun call entropy state =>
    (h call.arguments call.scene call.shared call.shared entropy call.entropy state).1

theorem solitary_ofArguments (signature : Signature)
    (result : List String → Except InvocationError String) (arguments : List String) :
    (ofArguments signature result).Solitary arguments :=
  fun _ _ _ _ _ _ => ⟨rfl, rfl⟩

theorem solitary_stateless (signature : Signature)
    {result : Call → Except InvocationError String}
    (h : ∀ scene arguments shared shared' entropy entropy',
      result ⟨scene, arguments, shared, entropy⟩ = result ⟨scene, arguments, shared', entropy'⟩)
    (arguments : List String) : (stateless signature result).Solitary arguments :=
  fun scene shared shared' entropy entropy' _ =>
    ⟨h scene arguments shared shared' entropy entropy', rfl⟩

end Routine

namespace Library

/-- The routines that draw from the generator. -/
def drawing : List Routine := [random, randomString, uuid]

/-- Whether a counter with these arguments counts for its family. -/
def CountsForFamily (arguments : List String) : Prop :=
  CounterMode.ofText? (Text.trim ((arguments[0]?).getD "")) = some .shared

theorem solitary_stringFromFile (arguments : List String) :
    stringFromFile.Solitary arguments := by
  intro scene shared shared' entropy entropy' state
  simp only [stringFromFile, Call.argument]
  cases Option.filter (fun file : OpenFile =>
      decide (file.path = .ofString (Text.trim ((arguments[0]?).getD "")))) state with
  | some file => exact ⟨rfl, rfl⟩
  | none =>
    simp only
    cases loadFile scene.world (Text.trim ((arguments[0]?).getD "")) with
    | ok file => exact ⟨rfl, rfl⟩
    | error e => exact ⟨rfl, rfl⟩

theorem solitary_counter {arguments : List String} (h : ¬ CountsForFamily arguments) :
    counter.Solitary arguments := by
  intro scene shared shared' entropy entropy' state
  simp only [counter, Call.argument]
  cases hmode : CounterMode.ofText? (Text.trim ((arguments[0]?).getD "")) with
  | none => exact ⟨rfl, rfl⟩
  | some mode =>
    cases mode with
    | perCopy => exact ⟨rfl, rfl⟩
    | shared => exact absurd hmode h

theorem solitary_logMessage (arguments : List String) : logMessage.Solitary arguments := by
  intro scene shared shared' entropy entropy' state
  simp only [logMessage, Call.argument]
  cases levelOfText? (Text.trim ((arguments[1]?).getD "")) with
  | some level => exact ⟨rfl, trivial⟩
  | none => exact ⟨rfl, trivial⟩

theorem solitary_tally (arguments : List String) : Samples.tally.Solitary arguments :=
  fun _ _ _ _ _ _ => ⟨rfl, rfl⟩

theorem solitary_flaky (arguments : List String) : Samples.flaky.Solitary arguments := by
  intro scene shared shared' entropy entropy' (total : UInt64)
  by_cases hodd : (total + 1) % 2 = 1
  · simp only [Samples.flaky, if_pos hodd]
    exact ⟨rfl, rfl⟩
  · simp only [Samples.flaky, if_neg hodd]
    exact ⟨rfl, rfl⟩

/-- Only random routines and counters have anything in common with other instances. -/
theorem solitary_of_mem {routine : Routine} (h : routine ∈ routines ++ Samples.all)
    (hd : routine ∉ drawing) {arguments : List String}
    (hc : routine = counter → ¬ CountsForFamily arguments) : routine.Solitary arguments := by
  simp only [routines, Samples.all, List.cons_append, List.nil_append, List.mem_cons,
    List.not_mem_nil, or_false] at h
  simp only [drawing, List.mem_cons, List.not_mem_nil, or_false, not_or] at hd
  rcases h with rfl | rfl | rfl | rfl | rfl | rfl | rfl | rfl | rfl | rfl | rfl | rfl | rfl | rfl |
    rfl | rfl | rfl | rfl | rfl | rfl | rfl | rfl | rfl | rfl
  -- There is a case for each routine, in the order of the two lists.
  · exact solitary_counter (hc rfl)
  · exact absurd rfl hd.1
  · exact absurd rfl hd.2.1
  · exact absurd rfl hd.2.2
  · exact Routine.solitary_stateless _ (fun _ _ _ _ _ _ => rfl) arguments
  · exact Routine.solitary_ofArguments _ _ arguments
  · exact Routine.solitary_stateless _ (fun _ _ _ _ _ _ => rfl) arguments
  · exact Routine.solitary_stateless _ (fun _ _ _ _ _ _ => rfl) arguments
  · exact Routine.solitary_stateless _ (fun _ _ _ _ _ _ => rfl) arguments
  · exact Routine.solitary_ofArguments _ _ arguments
  · exact Routine.solitary_stateless _ (fun _ _ _ _ _ _ => rfl) arguments
  · exact solitary_logMessage arguments
  · exact Routine.solitary_stateless _ (fun _ _ _ _ _ _ => rfl) arguments
  · exact solitary_stringFromFile arguments
  · exact Routine.solitary_stateless _ (fun _ _ _ _ _ _ => rfl) arguments
  · exact Routine.solitary_stateless _ (fun _ _ _ _ _ _ => rfl) arguments
  · exact Routine.solitary_stateless _ (fun _ _ _ _ _ _ => rfl) arguments
  · exact Routine.solitary_stateless _ (fun _ _ _ _ _ _ => rfl) arguments
  · exact Routine.solitary_ofArguments _ _ arguments
  · exact Routine.solitary_stateless _ (fun _ _ _ _ _ _ => rfl) arguments
  · exact solitary_tally arguments
  · exact solitary_flaky arguments
  · exact Routine.solitary_stateless _ (fun _ _ _ _ _ _ => rfl) arguments
  · exact Routine.solitary_stateless _ (fun _ _ _ _ _ _ => rfl) arguments

theorem ignoresEntropy_counter : counter.IgnoresEntropy := by
  intro call entropy state
  have hargument : Call.argument { call with entropy } 0 = call.argument 0 := rfl
  simp only [counter, hargument]
  cases CounterMode.ofText? (Text.trim (call.argument 0)) with
  | none => rfl
  | some mode => cases mode <;> rfl

/-- Only random routines draw from the generator. -/
theorem ignoresEntropy_of_mem {routine : Routine} (h : routine ∈ routines ++ Samples.all)
    (hd : routine ∉ drawing) : routine.IgnoresEntropy := by
  by_cases hc : routine = counter
  · rw [hc]
    exact ignoresEntropy_counter
  · exact Routine.ignoresEntropy_of_solitary fun _ => solitary_of_mem h hd fun heq => absurd heq hc

/-- An execution of a routine of the library that neither draws random words nor counts for a
family, or of some other routine that goes by its own state. -/
def KeepsApart (routine : Routine) (arguments : List String) : Prop :=
  (routine ∈ routines ++ Samples.all ∧ routine ∉ drawing ∧
      (routine = counter → ¬ CountsForFamily arguments)) ∨
    routine.Solitary arguments

theorem KeepsApart.solitary {routine : Routine} {arguments : List String}
    (h : KeepsApart routine arguments) : routine.Solitary arguments := by
  rcases h with ⟨hm, hd, hc⟩ | hs
  · exact solitary_of_mem hm hd hc
  · exact hs

end Library

end TextTemplate
