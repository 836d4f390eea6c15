import Mathlib.Data.List.DropRight
import TextTemplate.Proofs.RegistryCoherence

/-!
# Aliases and their targets

An alias takes over what its target calls at that moment, and does not follow the target after
that.

* `Registry.since` are the writes after the last one to a key.
* `Registry.Follows` is the invariant: the target of an alias calls what the alias calls, but for
  the writes to the target since the alias was made. Every change keeps it (`Follows.change`).
* `Registry.alias_inStep_iff`: an alias and its target call the same, unless the target was bound
  to something else since. `Registry.alias_outOfStep` is such a case.
-/

namespace TextTemplate

namespace Registry

variable {r next : Registry} {c : Change} {ws : List Write}

/-! ## Writes to aliases -/

/-- The key that the written one stands for from then on, if it is an alias. -/
def Change.target? : Change → Option String
  | bind _ _ => none
  | makeAlias _ target => some target

/-- A change decides whether its own key is an alias, and of what; other keys stay what they
are. -/
theorem aliasTarget_of_change (h : r.change c = .ok next) (key : String) :
    next.aliasTarget key = if c.key = key then c.target? else r.aliasTarget key := by
  cases c with
  | bind written routine =>
    cases h
    exact aliasTarget_bind r written key routine
  | makeAlias written target =>
    obtain ⟨routine, -, rfl⟩ := exists_of_makeAlias h
    exact aliasTarget_bindAlias r written target key routine

/-- A key that has just been made an alias calls what its target calls. -/
theorem lookup_eq_of_target? (h : r.change c = .ok next) {target : String}
    (ht : c.target? = some target) : next.lookup target = next.lookup c.key := by
  cases c with
  | bind key routine => cases ht
  | makeAlias key target' =>
    cases ht
    have hkey : next.lookup key = r.lookup target := by
      rw [lookup_of_makeAlias h, if_pos rfl]
    have htarget : next.lookup target = r.lookup target := by
      -- The target may be the key itself.
      rw [lookup_of_makeAlias h]
      split <;> rfl
    exact htarget.trans hkey.symm

/-! ## Writes since an alias was made -/

/-- The writes after the last one to a key; all of them, if there is none to it. -/
def since (ws : List Write) (key : String) : List Write := ws.rtakeWhile (·.key ≠ key)

theorem since_concat_self {w : Write} {key : String} (h : w.key = key) (ws : List Write) :
    since (ws ++ [w]) key = [] :=
  List.rtakeWhile_concat_neg _ ws w (by simp [h])

theorem since_concat_of_ne {w : Write} {key : String} (h : w.key ≠ key) (ws : List Write) :
    since (ws ++ [w]) key = since ws key ++ [w] :=
  List.rtakeWhile_concat_pos _ ws w (by simp [h])

/-- The target of an alias calls what the alias calls, but for the writes to the target since the
alias was made. -/
def Follows (r : Registry) (ws : List Write) : Prop :=
  ∀ key target, r.aliasTarget key = some target →
    r.lookup target = boundBy (since ws key) target (r.lookup key)

namespace Follows

theorem empty : Follows .empty [] := by
  intro key target h
  simp [aliasTarget, Registry.empty] at h

/-- A change that takes place is one more write. -/
theorem change (hf : r.Follows ws) (h : r.change c = .ok next) :
    next.Follows (ws ++ [⟨r, c⟩]) := by
  intro key target ht
  rw [aliasTarget_of_change h] at ht
  by_cases hk : c.key = key
  · -- The alias has just been made, and nothing was written since.
    subst hk
    rw [if_pos rfl] at ht
    have hsince : since (ws ++ [⟨r, c⟩]) c.key = [] := since_concat_self rfl ws
    rw [hsince]
    exact lookup_eq_of_target? h ht
  · -- The alias was there before, and its target may have been written.
    rw [if_neg hk] at ht
    have hsince : since (ws ++ [⟨r, c⟩]) key = since ws key ++ [⟨r, c⟩] :=
      since_concat_of_ne (w := ⟨r, c⟩) hk ws
    have hkey : next.lookup key = r.lookup key := lookup_of_change h hk
    rw [hsince, boundBy_append, hkey, ← hf key target ht]
    exact lookup_of_write h target

theorem changeAll (hf : r.Follows ws) (cs : List Change) :
    (r.changeAll cs).registry.Follows (ws ++ r.writesOf cs) := by
  induction cs generalizing r ws with
  | nil =>
    rw [writesOf, List.append_nil]
    exact hf
  | cons c cs ih =>
    unfold Registry.changeAll writesOf
    cases hc : r.change c with
    | error e =>
      rw [List.append_nil]
      exact hf
    | ok next =>
      have hrest := ih (hf.change hc)
      rw [List.append_assoc] at hrest
      exact hrest

/-- After any operations, targets are still followed but for later writes. -/
theorem run (hf : r.Follows ws) (operations : List Operation) :
    (r.run operations).Follows (ws ++ r.writes operations) := by
  induction operations generalizing r ws with
  | nil =>
    rw [writes, List.append_nil]
    exact hf
  | cons operation operations ih =>
    have hrest := ih (hf.changeAll operation.changes)
    rw [List.append_assoc] at hrest
    exact hrest

end Follows

/-! ## Aliases in step -/

/-- Two keys call the same and are declared alike. -/
def InStep (r : Registry) (key key' : String) : Prop :=
  r.lookup key = r.lookup key' ∧ r.signature key = r.signature key'

theorem Coherent.inStep_iff (h : r.Coherent) (key key' : String) :
    r.InStep key key' ↔ r.lookup key = r.lookup key' := by
  constructor
  · exact And.left
  · intro hlookup
    have hsignature : r.signature key = r.signature key' := by
      rw [h.declared, h.declared, hlookup]
    exact ⟨hlookup, hsignature⟩

/-- After any operations on a registry that was empty, an alias and its target are in step exactly
if the last write to the target since the alias was made, if there is one, bound what the alias
calls. So they are in step as long as the target is not written again. -/
theorem alias_inStep_iff (operations : List Operation) {key target : String}
    (h : (Registry.empty.run operations).aliasTarget key = some target) :
    let r := Registry.empty.run operations
    let later := since (Registry.empty.writes operations) key
    (r.InStep key target ↔
      ∀ w, lastWrite? later target = some w → w.routine? = r.lookup key) ∧
    ((∀ w ∈ later, w.key ≠ target) → r.InStep key target) := by
  intro r later
  have hcoherent : r.Coherent := Coherent.empty.run operations
  have hfollows : r.Follows (Registry.empty.writes operations) := Follows.empty.run operations
  have htarget : r.lookup target = boundBy later target (r.lookup key) := hfollows key target h
  have hiff : r.InStep key target ↔
      ∀ w, lastWrite? later target = some w → w.routine? = r.lookup key := by
    rw [hcoherent.inStep_iff, htarget, boundBy]
    cases hlast : lastWrite? later target with
    | none => simp
    | some w =>
      simp only [Option.some.injEq, forall_eq']
      exact eq_comm
  refine ⟨hiff, ?_⟩
  intro hunwritten
  rw [hiff]
  intro w hw
  have hmem : w ∈ later ∧ w.key = target := by
    simpa using List.mem_filter.mp (List.mem_of_getLast? hw)
  exact absurd hmem.2 (hunwritten w hmem.1)

open Library.Samples in
/-- A key with an alias is bound to another routine, and has one more alias after that. -/
def rebinding : List Operation :=
  [.registerAs "t" inner, .makeAlias "a" "t", .registerAs "t" outer, .makeAlias "b" "t"]

theorem alias_inStep_iff_rebinding :
    (Registry.empty.run rebinding).aliasTarget "b" = some "t" ∧
      (Registry.empty.run rebinding).InStep "b" "t" := by
  have halias : (Registry.empty.run rebinding).aliasTarget "b" = some "t" := rfl
  have hlater : since (Registry.empty.writes rebinding) "b" = [] := rfl
  refine ⟨halias, (alias_inStep_iff rebinding halias).2 ?_⟩
  intro w hw
  rw [hlater] at hw
  cases hw

/-- An alias whose target has been bound to another routine calls the former one, and is declared
with the signature of that. -/
theorem alias_outOfStep :
    (Registry.empty.run rebinding).aliasTarget "a" = some "t" ∧
      (Registry.empty.run rebinding).lookup "a" ≠ (Registry.empty.run rebinding).lookup "t" ∧
      (Registry.empty.run rebinding).signature "a" ≠
        (Registry.empty.run rebinding).signature "t" := by
  have hcoherent : (Registry.empty.run rebinding).Coherent := Coherent.empty.run rebinding
  have hsignature : (Registry.empty.run rebinding).signature "a" ≠
      (Registry.empty.run rebinding).signature "t" := by
    decide
  refine ⟨rfl, ?_, hsignature⟩
  intro hlookup
  exact hsignature ((hcoherent.inStep_iff "a" "t").mpr hlookup).2

end Registry

end TextTemplate
