/-!
# Entropy

Random draws come from a generator with 64 bits of state, which is passed on from draw to draw, so
that a run is determined by the state it starts from. Each word scrambles a counter.
-/

namespace TextTemplate

/-- The state of a generator of random words. -/
structure Entropy where
  state : UInt64
deriving DecidableEq, Repr

namespace Entropy

/-- The next word. -/
def word (e : Entropy) : UInt64 × Entropy :=
  let state := e.state + 0x9E3779B97F4A7C15
  let a := (state ^^^ (state >>> 30)) * 0xBF58476D1CE4E5B9
  let b := (a ^^^ (a >>> 27)) * 0x94D049BB133111EB
  (b ^^^ (b >>> 31), ⟨state⟩)

/-- A number below `bound`, which must not be zero. Two words make up the number that is reduced,
so the bias is below one in `2 ^ 64` for every bound that fits into a word. -/
def below (e : Entropy) (bound : Nat) : Nat × Entropy :=
  let (high, e) := e.word
  let (low, e) := e.word
  ((high.toNat * UInt64.size + low.toNat) % bound, e)

theorem below_lt (e : Entropy) {bound : Nat} (h : 0 < bound) : (e.below bound).1 < bound :=
  Nat.mod_lt _ h

/-- So many draws below one bound. -/
def draws (bound : Nat) : Nat → Entropy → List Nat × Entropy
  | 0, e => ([], e)
  | count + 1, e =>
    let (n, e) := e.below bound
    let (ns, e) := draws bound count e
    (n :: ns, e)

end Entropy

end TextTemplate
