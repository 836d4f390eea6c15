import Mathlib.Data.List.Lex
import TextTemplate.Text.Utf8

/-!
# Order of octets

The UTF-8 form keeps the order of texts: texts in the order of their characters are in the order
of their octets, too.

* `octetNumbers` are the octets of a code point as numbers, in four bands by their count.
* `octetNumbers_lt`: at the first place where the octets of two code points differ, the greater
  code point has the greater octet.
* `encode_lt_encode`: octets compare as the texts do.
-/

namespace TextTemplate.Text.Utf8

/-- The octets of a code point, as numbers. -/
def octetNumbers (n : Nat) : List Nat :=
  if n ≤ 0x7F then [n]
  else if n ≤ 0x7FF then [n / 64 % 0x20 + 0xC0, n % 0x40 + 0x80]
  else if n ≤ 0xFFFF then [n / 4096 % 0x10 + 0xE0, n / 64 % 0x40 + 0x80, n % 0x40 + 0x80]
  else
    [n / 262144 % 0x08 + 0xF0, n / 4096 % 0x40 + 0x80, n / 64 % 0x40 + 0x80, n % 0x40 + 0x80]

theorem utf8EncodeChar_eq (c : Char) :
    String.utf8EncodeChar c = (octetNumbers c.toNat).map UInt8.ofNat := by
  have hn : c.toNat = c.val.toNat := rfl
  unfold String.utf8EncodeChar octetNumbers
  rw [hn]
  simp only
  split
  · rfl
  · split
    · rfl
    · split <;> rfl

theorem lt_of_mem_octetNumbers {n k : Nat} (h : k ∈ octetNumbers n) : k < UInt8.size := by
  have hsize : UInt8.size = 256 := rfl
  unfold octetNumbers at h
  split at h
  · simp only [List.mem_singleton] at h
    omega
  · split at h
    · simp only [List.mem_cons, List.not_mem_nil, or_false] at h
      omega
    · split at h
      · simp only [List.mem_cons, List.not_mem_nil, or_false] at h
        omega
      · simp only [List.mem_cons, List.not_mem_nil, or_false] at h
        omega

theorem exists_octetNumbers_eq_cons (n : Nat) : ∃ a as, octetNumbers n = a :: as := by
  unfold octetNumbers
  split
  · exact ⟨_, _, rfl⟩
  · split
    · exact ⟨_, _, rfl⟩
    · split <;> exact ⟨_, _, rfl⟩

/-- One list is before another one by the first place where they differ. -/
def Precedes (xs ys : List Nat) : Prop :=
  ∃ shared x y xs' ys', xs = shared ++ x :: xs' ∧ ys = shared ++ y :: ys' ∧ x < y

theorem Precedes.head {x y : Nat} (h : x < y) (xs ys : List Nat) : Precedes (x :: xs) (y :: ys) :=
  ⟨[], x, y, xs, ys, rfl, rfl, h⟩

theorem Precedes.tail {x y : Nat} {xs ys : List Nat} (hx : x = y) (h : Precedes xs ys) :
    Precedes (x :: xs) (y :: ys) := by
  subst hx
  obtain ⟨shared, a, b, as, bs, rfl, rfl, hlt⟩ := h
  exact ⟨x :: shared, a, b, as, bs, rfl, rfl, hlt⟩

/-- A greater code point has the greater octet at the first place where the octets differ. -/
theorem octetNumbers_lt {m n : Nat} (h : m < n) (hn : n < 0x110000) :
    Precedes (octetNumbers m) (octetNumbers n) := by
  unfold octetNumbers
  split
  · -- One octet: all longer forms begin with a greater one.
    split
    · exact .head h _ _
    · split
      · exact .head (by omega) _ _
      · split <;> exact .head (by omega) _ _
  · rw [if_neg (show ¬ n ≤ 0x7F by omega)]
    split
    · split
      · by_cases h0 : m / 64 = n / 64
        · exact .tail (by omega) (.head (by omega) _ _)
        · exact .head (by omega) _ _
      · split <;> exact .head (by omega) _ _
    · rw [if_neg (show ¬ n ≤ 0x7FF by omega)]
      split
      · split
        · by_cases h0 : m / 4096 = n / 4096
          · by_cases h1 : m / 64 = n / 64
            · exact .tail (by omega) (.tail (by omega) (.head (by omega) _ _))
            · exact .tail (by omega) (.head (by omega) _ _)
          · exact .head (by omega) _ _
        · exact .head (by omega) _ _
      · rw [if_neg (show ¬ n ≤ 0xFFFF by omega)]
        by_cases h0 : m / 262144 = n / 262144
        · by_cases h1 : m / 4096 = n / 4096
          · by_cases h2 : m / 64 = n / 64
            · exact .tail (by omega) (.tail (by omega) (.tail (by omega) (.head (by omega) _ _)))
            · exact .tail (by omega) (.tail (by omega) (.head (by omega) _ _))
          · exact .tail (by omega) (.head (by omega) _ _)
        · exact .head (by omega) _ _

theorem Precedes.map_ofNat_lt {ms ns : List Nat} (h : Precedes ms ns)
    (hm : ∀ k ∈ ms, k < UInt8.size) (hn : ∀ k ∈ ns, k < UInt8.size) (xs ys : List UInt8) :
    ms.map UInt8.ofNat ++ xs < ns.map UInt8.ofNat ++ ys := by
  obtain ⟨shared, a, b, as, bs, rfl, rfl, hlt⟩ := h
  have ha : a < UInt8.size := hm a (by simp)
  have hb : b < UInt8.size := hn b (by simp)
  simp only [List.map_append, List.map_cons, List.append_assoc]
  apply List.append_left_lt
  rw [List.cons_append, List.cons_append, List.cons_lt_cons_iff]
  exact Or.inl ((UInt8.ofNat_lt_iff_lt ha hb).mpr hlt)

theorem toNat_lt_charLimit (c : Char) : c.toNat < 0x110000 := by
  have hc : c.toNat = c.val.toNat := rfl
  have hv : c.val.toNat.isValidChar := c.valid
  unfold Nat.isValidChar at hv
  omega

theorem utf8EncodeChar_append_lt {c d : Char} (h : c < d) (xs ys : List UInt8) :
    String.utf8EncodeChar c ++ xs < String.utf8EncodeChar d ++ ys := by
  rw [utf8EncodeChar_eq, utf8EncodeChar_eq]
  exact (octetNumbers_lt h (toNat_lt_charLimit d)).map_ofNat_lt (fun _ => lt_of_mem_octetNumbers)
    (fun _ => lt_of_mem_octetNumbers) xs ys

theorem flatMap_utf8EncodeChar_lt {cs ds : List Char} (h : cs < ds) :
    cs.flatMap String.utf8EncodeChar < ds.flatMap String.utf8EncodeChar := by
  induction ds generalizing cs with
  | nil => exact absurd h (List.not_lt_nil cs)
  | cons d ds ih =>
    cases cs with
    | nil =>
      obtain ⟨a, as, ha⟩ := exists_octetNumbers_eq_cons d.toNat
      rw [List.flatMap_nil, List.flatMap_cons, utf8EncodeChar_eq, ha]
      exact List.nil_lt_cons _ _
    | cons c cs =>
      rw [List.flatMap_cons, List.flatMap_cons]
      rcases List.cons_lt_cons_iff.mp h with hlt | ⟨rfl, htail⟩
      · exact utf8EncodeChar_append_lt hlt _ _
      · exact List.append_left_lt (ih htail)

/-- Texts in their order have their octets in order. -/
theorem encode_lt_encode {s t : String} (h : s < t) : encode s < encode t :=
  flatMap_utf8EncodeChar_lt (String.lt_iff.mp h)

end TextTemplate.Text.Utf8
