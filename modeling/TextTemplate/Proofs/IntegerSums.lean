import Mathlib.Algebra.BigOperators.Group.List.Basic
import Mathlib.Algebra.Order.BigOperators.Group.List
import Mathlib.Algebra.Order.Ring.Int
import TextTemplate.Library.Arithmetic

/-!
# Sums of integers

`__intSum` keeps a total of 64 bits, and adds one argument after the other to it.

* `Library.integers` are the numbers that arguments spell, and `Library.FitsFrom` says that the
  totals on the way fit into 64 bits.
* `Library.intSum_integers`: the result is the sum, if all totals fit, and an overflow otherwise.
  With arguments of one sign it is enough that the sum fits. With arguments of both signs it is
  not (`Library.intSum_overflows_on_the_way`).
-/

namespace TextTemplate.Library

/-! ## Numbers that arguments spell -/

/-- The number that an argument spells, blanks around it aside. -/
def integer? (value : String) : Option Int :=
  (Text.Bounds.signed64.read 10 (Text.trim value).toList).toOption

/-- The numbers that arguments spell, without the arguments that spell none. -/
def integers (arguments : List String) : List Int := arguments.filterMap integer?

theorem integerArgument_of_integer? {value : String} {n : Int} (h : integer? value = some n)
    (name : String) (index : Nat) : integerArgument name index value = .ok n := by
  unfold integer? at h
  unfold integerArgument
  cases hread : Text.Bounds.signed64.read 10 (Text.trim value).toList with
  | error e =>
    rw [hread] at h
    cases h
  | ok m =>
    rw [hread] at h
    cases h
    rfl

/-! ## Totals on the way -/

/-- Numbers are added to a total, and all totals on the way fit into 64 bits. -/
def FitsFrom (total : Int) (ns : List Int) : Prop :=
  ∀ k, fitsSigned64 (total + (ns.take k).sum) = true

theorem fitsFrom_nil {total : Int} (h : fitsSigned64 total = true) : FitsFrom total [] := by
  intro k
  rw [List.take_nil, List.sum_nil, Int.add_zero]
  exact h

theorem fitsFrom_cons {total n : Int} {ns : List Int} (h : fitsSigned64 total = true) :
    FitsFrom total (n :: ns) ↔ FitsFrom (total + n) ns := by
  constructor
  · intro hfits k
    have hk := hfits (k + 1)
    rw [List.take_succ_cons, List.sum_cons, ← Int.add_assoc] at hk
    exact hk
  · intro hfits k
    cases k with
    | zero =>
      rw [List.take_zero, List.sum_nil, Int.add_zero]
      exact h
    | succ k =>
      rw [List.take_succ_cons, List.sum_cons, ← Int.add_assoc]
      exact hfits k

theorem FitsFrom.start {total : Int} {ns : List Int} (h : FitsFrom total ns) :
    fitsSigned64 total = true := by
  have hzero := h 0
  rw [List.take_zero, List.sum_nil, Int.add_zero] at hzero
  exact hzero

theorem FitsFrom.whole {total : Int} {ns : List Int} (h : FitsFrom total ns) :
    fitsSigned64 (total + ns.sum) = true := by
  have hlength := h ns.length
  rw [List.take_length] at hlength
  exact hlength

theorem fitsSigned64_iff (n : Int) :
    fitsSigned64 n = true ↔ -9223372036854775808 ≤ n ∧ n ≤ 9223372036854775807 := by
  rw [fitsSigned64, Bool.and_eq_true, decide_eq_true_iff, decide_eq_true_iff]
  exact Iff.rfl

/-- The totals of numbers of one sign lie between zero and the sum. -/
theorem fitsFrom_zero_of_one_sign {ns : List Int} (hns : (∀ n ∈ ns, 0 ≤ n) ∨ ∀ n ∈ ns, n ≤ 0)
    (h : fitsSigned64 ns.sum = true) : FitsFrom 0 ns := by
  intro k
  have hsum : (ns.take k).sum + (ns.drop k).sum = ns.sum := List.sum_take_add_sum_drop ns k
  rw [fitsSigned64_iff] at h ⊢
  rcases hns with hns | hns
  · have htake : 0 ≤ (ns.take k).sum :=
      List.sum_nonneg fun n hn => hns n (List.mem_of_mem_take hn)
    have hdrop : 0 ≤ (ns.drop k).sum :=
      List.sum_nonneg fun n hn => hns n (List.mem_of_mem_drop hn)
    omega
  · have htake : (ns.take k).sum ≤ 0 := by
      simpa using List.sum_le_card_nsmul _ 0 fun n hn => hns n (List.mem_of_mem_take hn)
    have hdrop : (ns.drop k).sum ≤ 0 := by
      simpa using List.sum_le_card_nsmul _ 0 fun n hn => hns n (List.mem_of_mem_drop hn)
    omega

/-! ## Adding up -/

/-- What is reported where a total does not fit. -/
def sumOverflow : InvocationError := .evaluation "__intSum" "integer overflow"

section Arguments

variable {arguments : List String} {total : Int} {index : Nat}

theorem integers_cons {value : String} {n : Int} (h : integer? value = some n)
    (values : List String) : integers (value :: values) = n :: integers values :=
  List.filterMap_cons_some h

/-- One step of the addition. -/
theorem addArguments_cons {value : String} {n : Int} (h : integer? value = some n)
    (values : List String) :
    addArguments total index (value :: values) =
      if fitsSigned64 (total + n) then addArguments (total + n) (index + 1) values
      else .error sumOverflow := by
  rw [addArguments, integerArgument_of_integer? h]
  rfl

theorem addArguments_of_fitsFrom (hs : ∀ value ∈ arguments, (integer? value).isSome = true)
    (h : FitsFrom total (integers arguments)) :
    addArguments total index arguments = .ok (total + (integers arguments).sum) := by
  induction arguments generalizing total index with
  | nil => simp [addArguments, integers]
  | cons value values ih =>
    obtain ⟨hvalue, hvalues⟩ := List.forall_mem_cons.mp hs
    obtain ⟨n, hn⟩ := Option.isSome_iff_exists.mp hvalue
    rw [integers_cons hn] at h ⊢
    rw [fitsFrom_cons h.start] at h
    rw [addArguments_cons hn, if_pos h.start, ih hvalues h, List.sum_cons, Int.add_assoc]

/-- The first total that does not fit ends the addition. -/
theorem addArguments_of_not_fitsFrom (hs : ∀ value ∈ arguments, (integer? value).isSome = true)
    (htotal : fitsSigned64 total = true) (h : ¬ FitsFrom total (integers arguments)) :
    addArguments total index arguments = .error sumOverflow := by
  induction arguments generalizing total index with
  | nil => exact absurd (fitsFrom_nil htotal) h
  | cons value values ih =>
    obtain ⟨hvalue, hvalues⟩ := List.forall_mem_cons.mp hs
    obtain ⟨n, hn⟩ := Option.isSome_iff_exists.mp hvalue
    rw [integers_cons hn, fitsFrom_cons htotal] at h
    rw [addArguments_cons hn]
    by_cases hnext : fitsSigned64 (total + n) = true
    · rw [if_pos hnext]
      exact ih hvalues hnext h
    · rw [if_neg hnext]

end Arguments

/-! ## Results -/

theorem run_intSum (call : Call) :
    (intSum.run call ()).result = (addArguments 0 0 call.arguments).map toString := rfl

section Calls

variable {call : Call} (hs : ∀ value ∈ call.arguments, (integer? value).isSome = true)

include hs

theorem intSum_of_fitsFrom (h : FitsFrom 0 (integers call.arguments)) :
    (intSum.run call ()).result = .ok (toString (integers call.arguments).sum) := by
  rw [run_intSum, addArguments_of_fitsFrom hs h, Int.zero_add]
  rfl

theorem intSum_of_not_fitsFrom (h : ¬ FitsFrom 0 (integers call.arguments)) :
    (intSum.run call ()).result = .error sumOverflow := by
  rw [run_intSum, addArguments_of_not_fitsFrom hs rfl h]
  rfl

/-- Integers in another order have the same sum, so that only overflows can tell orders apart. -/
theorem intSum_of_perm {call' : Call} (hperm : call'.arguments.Perm call.arguments) :
    (intSum.run call' ()).result = (intSum.run call ()).result ∨
      (intSum.run call' ()).result = .error sumOverflow ∨
      (intSum.run call ()).result = .error sumOverflow := by
  have hs' : ∀ value ∈ call'.arguments, (integer? value).isSome = true :=
    fun value hvalue => hs value (hperm.mem_iff.mp hvalue)
  have hsum : (integers call'.arguments).sum = (integers call.arguments).sum :=
    (hperm.filterMap integer?).sum_eq
  by_cases h : FitsFrom 0 (integers call.arguments)
  · by_cases h' : FitsFrom 0 (integers call'.arguments)
    · left
      rw [intSum_of_fitsFrom hs h, intSum_of_fitsFrom hs' h', hsum]
    · exact .inr (.inl (intSum_of_not_fitsFrom hs' h'))
  · exact .inr (.inr (intSum_of_not_fitsFrom hs h))

end Calls

/-- A call of `__intSum` with integers gives their sum exactly if all totals on the way from left to
right fit into 64 bits, and an overflow exactly if one of them does not. If the sum itself does not
fit, it is an overflow; with integers of one sign, it is one only then. Calls with the same integers
in another order give the same, unless one of the two is an overflow. -/
theorem intSum_integers (call : Call)
    (hs : ∀ value ∈ call.arguments, (integer? value).isSome = true) :
    let ns := integers call.arguments
    let result := (intSum.run call ()).result
    (result = .ok (toString ns.sum) ↔ FitsFrom 0 ns) ∧
    (result = .error sumOverflow ↔ ¬ FitsFrom 0 ns) ∧
    (fitsSigned64 ns.sum = false → result = .error sumOverflow) ∧
    ((∀ n ∈ ns, 0 ≤ n) ∨ (∀ n ∈ ns, n ≤ 0) →
      (result = .ok (toString ns.sum) ↔ fitsSigned64 ns.sum = true)) ∧
    ∀ call' : Call, call'.arguments.Perm call.arguments →
      (intSum.run call' ()).result = result ∨
        (intSum.run call' ()).result = .error sumOverflow ∨ result = .error sumOverflow := by
  intro ns result
  have hwhole : FitsFrom 0 ns → fitsSigned64 ns.sum = true := by
    intro h
    have hsum := h.whole
    rwa [Int.zero_add] at hsum
  have hok : result = .ok (toString ns.sum) ↔ FitsFrom 0 ns := by
    constructor
    · intro hresult
      by_contra h
      have herror : result = .error sumOverflow := intSum_of_not_fitsFrom hs h
      rw [hresult] at herror
      cases herror
    · exact intSum_of_fitsFrom hs
  have herror : result = .error sumOverflow ↔ ¬ FitsFrom 0 ns := by
    constructor
    · intro hresult h
      have hsum : result = .ok (toString ns.sum) := intSum_of_fitsFrom hs h
      rw [hresult] at hsum
      cases hsum
    · exact intSum_of_not_fitsFrom hs
  refine ⟨hok, herror, ?_, ?_, ?_⟩
  · intro hsum
    rw [herror]
    intro h
    rw [hwhole h] at hsum
    cases hsum
  · intro hsign
    rw [hok]
    exact ⟨hwhole, fitsFrom_zero_of_one_sign hsign⟩
  · intro call' hperm
    exact intSum_of_perm hs hperm

/-- A call with arguments, and with nothing else around it. -/
def callWith (arguments : List String) : Call :=
  { scene := ⟨{}, ⟨⟨0, 0⟩, 0, fun _ => .error .notFound⟩⟩, arguments, shared := 0, entropy := ⟨0⟩ }

theorem intSum_integers_ten :
    (∀ value ∈ [" 10 ", "-4", "+6"], (integer? value).isSome = true) ∧
      (intSum.run (callWith [" 10 ", "-4", "+6"]) ()).result = .ok "12" := by
  have hs : ∀ value ∈ (callWith [" 10 ", "-4", "+6"]).arguments,
      (integer? value).isSome = true := by
    decide
  have hns : integers (callWith [" 10 ", "-4", "+6"]).arguments = [10, -4, 6] := by decide
  have hfits : FitsFrom 0 (integers (callWith [" 10 ", "-4", "+6"]).arguments) := by
    rw [hns, fitsFrom_cons rfl, fitsFrom_cons rfl, fitsFrom_cons rfl]
    exact fitsFrom_nil rfl
  have hresult := (intSum_integers (callWith [" 10 ", "-4", "+6"]) hs).1.mpr hfits
  rw [hns] at hresult
  exact ⟨hs, hresult⟩

/-- The sum of these three integers fits, but the total of the first two does not. -/
theorem intSum_overflows_on_the_way :
    (∀ value ∈ ["9223372036854775807", "1", "-1"], (integer? value).isSome = true) ∧
      fitsSigned64 (integers ["9223372036854775807", "1", "-1"]).sum = true ∧
      (intSum.run (callWith ["9223372036854775807", "1", "-1"]) ()).result = .error sumOverflow ∧
      (intSum.run (callWith ["9223372036854775807", "-1", "1"]) ()).result =
        .ok "9223372036854775807" := by
  refine ⟨by decide, by decide, ?_, ?_⟩
  · decide
  · decide

end TextTemplate.Library
