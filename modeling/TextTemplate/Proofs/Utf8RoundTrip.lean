import TextTemplate.Proofs.OctetOrder

/-!
# Reading octets back

The octets of a text are well-formed UTF-8, and are read back to the text.

* `decodeFrom_one` to `decodeFrom_four` read one sequence of octets, by its length.
* `decodeFrom_octetNumbers`: the octets of a character are such a sequence. Its code point lies in
  one of four bands, and no surrogate is a character.
* `decode_encode`: so a text is read back from its octets.
-/

namespace TextTemplate.Text.Utf8

/-! ## Octets as numbers -/

theorem toNat_ofNat {k : Nat} (hk : k < 256) : (UInt8.ofNat k).toNat = k :=
  UInt8.toNat_ofNat_of_lt' hk

theorem payload_ofNat {k : Nat} (hk : k < 256) : payload (UInt8.ofNat k) = k % 0x40 := by
  rw [payload, toNat_ofNat hk]

theorem between_ofNat {low high : UInt8} {k : Nat} (hl : low.toNat ≤ k) (hh : k ≤ high.toNat) :
    (low ≤ UInt8.ofNat k && UInt8.ofNat k ≤ high) = true := by
  have hk : k < 256 := Nat.lt_of_le_of_lt hh high.toNat_lt
  simp only [UInt8.le_iff_toNat_le, toNat_ofNat hk, hl, hh, decide_true, Bool.and_true]

/-- An octet that continues a sequence, as a number. -/
def Continues (k : Nat) : Prop := 0x80 ≤ k ∧ k ≤ 0xBF

/-- An octet that can follow the first octet `j`, as a number. -/
def ContinuesAfter (j k : Nat) : Prop :=
  Continues k ∧ (j = 0xE0 → 0xA0 ≤ k) ∧ (j = 0xED → k ≤ 0x9F) ∧ (j = 0xF0 → 0x90 ≤ k) ∧
    (j = 0xF4 → k ≤ 0x8F)

theorem Continues.lt {k : Nat} (h : Continues k) : k < 256 := Nat.lt_of_le_of_lt h.2 (by decide)

theorem isContinuation_ofNat {k : Nat} (h : Continues k) :
    isContinuation (UInt8.ofNat k) = true :=
  between_ofNat h.1 h.2

theorem isSecond_ofNat {j k : Nat} (hj : j < 256) (h : ContinuesAfter j k) :
    isSecond (UInt8.ofNat j) (UInt8.ofNat k) = true := by
  obtain ⟨hcontinues, hE0, hED, hF0, hF4⟩ := h
  have hfirst : ∀ octet : UInt8, UInt8.ofNat j = octet → j = octet.toNat := by
    rintro octet rfl
    exact (toNat_ofNat hj).symm
  unfold isSecond
  split
  · rename_i h
    exact between_ofNat (hE0 (hfirst _ h)) hcontinues.2
  split
  · rename_i h
    exact between_ofNat hcontinues.1 (hED (hfirst _ h))
  split
  · rename_i h
    exact between_ofNat (hF0 (hfirst _ h)) hcontinues.2
  split
  · rename_i h
    exact between_ofNat hcontinues.1 (hF4 (hfirst _ h))
  · exact isContinuation_ofNat hcontinues

/-- The first octet tells how many octets there are. -/
theorem length?_ofNat {k : Nat} (hk : k < 256) :
    length? (UInt8.ofNat k) =
      if k < 0x80 then some 1
      else if 0xC2 ≤ k ∧ k ≤ 0xDF then some 2
      else if 0xE0 ≤ k ∧ k ≤ 0xEF then some 3
      else if 0xF0 ≤ k ∧ k ≤ 0xF4 then some 4
      else none := by
  simp [length?, UInt8.lt_iff_toNat_lt, UInt8.le_iff_toNat_le, toNat_ofNat hk]

/-! ## One sequence -/

section Sequences

variable {a b c d : Nat} (start : Nat) (rest : List UInt8)

theorem decodeFrom_one (ha : a < 0x80) :
    decodeFrom start (.ofNat a :: rest) =
      (decodeFrom (start + 1) rest).map (Char.ofNat a :: ·) := by
  have hlt : a < 256 := by omega
  have hlength : length? (UInt8.ofNat a) = some 1 := by
    rw [length?_ofNat hlt, if_pos ha]
  rw [decodeFrom.eq_def]
  simp only [hlength, toNat_ofNat hlt, decodeFrom.push]

theorem decodeFrom_two (ha : 0xC2 ≤ a ∧ a ≤ 0xDF) (hb : ContinuesAfter a b) :
    decodeFrom start (.ofNat a :: .ofNat b :: rest) =
      (decodeFrom (start + 2) rest).map (Char.ofNat (a % 0x20 * 0x40 + b % 0x40) :: ·) := by
  have hlt : a < 256 := by omega
  have hlength : length? (UInt8.ofNat a) = some 2 := by
    rw [length?_ofNat hlt, if_neg (by omega), if_pos ha]
  rw [decodeFrom.eq_def]
  simp only [hlength, isSecond_ofNat hlt hb, if_true, toNat_ofNat hlt, payload_ofNat hb.1.lt,
    decodeFrom.push]

theorem decodeFrom_three (ha : 0xE0 ≤ a ∧ a ≤ 0xEF) (hb : ContinuesAfter a b)
    (hc : Continues c) :
    decodeFrom start (.ofNat a :: .ofNat b :: .ofNat c :: rest) =
      (decodeFrom (start + 3) rest).map
        (Char.ofNat ((a % 0x10 * 0x40 + b % 0x40) * 0x40 + c % 0x40) :: ·) := by
  have hlt : a < 256 := by omega
  have hlength : length? (UInt8.ofNat a) = some 3 := by
    rw [length?_ofNat hlt, if_neg (by omega), if_neg (by omega), if_pos ha]
  rw [decodeFrom.eq_def]
  simp only [hlength, isSecond_ofNat hlt hb, isContinuation_ofNat hc, if_true, toNat_ofNat hlt,
    payload_ofNat hb.1.lt, payload_ofNat hc.lt, decodeFrom.push]

theorem decodeFrom_four (ha : 0xF0 ≤ a ∧ a ≤ 0xF4) (hb : ContinuesAfter a b)
    (hc : Continues c) (hd : Continues d) :
    decodeFrom start (.ofNat a :: .ofNat b :: .ofNat c :: .ofNat d :: rest) =
      (decodeFrom (start + 4) rest).map
        (Char.ofNat (((a % 0x8 * 0x40 + b % 0x40) * 0x40 + c % 0x40) * 0x40 + d % 0x40) :: ·) := by
  have hlt : a < 256 := by omega
  have hlength : length? (UInt8.ofNat a) = some 4 := by
    rw [length?_ofNat hlt, if_neg (by omega), if_neg (by omega), if_neg (by omega), if_pos ha]
  rw [decodeFrom.eq_def]
  simp only [hlength, isSecond_ofNat hlt hb, isContinuation_ofNat hc, isContinuation_ofNat hd,
    if_true, toNat_ofNat hlt, payload_ofNat hb.1.lt, payload_ofNat hc.lt, payload_ofNat hd.lt,
    decodeFrom.push]

/-- The octets of a code point are read back to it, unless it is a surrogate. -/
theorem decodeFrom_octetNumbers {n : Nat} (hn : n.isValidChar) :
    decodeFrom start ((octetNumbers n).map UInt8.ofNat ++ rest) =
      (decodeFrom (start + (octetNumbers n).length) rest).map (Char.ofNat n :: ·) := by
  unfold Nat.isValidChar at hn
  unfold octetNumbers
  split
  · exact decodeFrom_one start rest (by omega)
  split
  · -- Of two octets, the first is not below `0xC2`, as the code point is too great for one.
    have hb : ContinuesAfter (n / 64 % 0x20 + 0xC0) (n % 0x40 + 0x80) := by
      unfold ContinuesAfter Continues
      omega
    have hcode : (n / 64 % 0x20 + 0xC0) % 0x20 * 0x40 + (n % 0x40 + 0x80) % 0x40 = n := by omega
    have hread := decodeFrom_two start rest (by omega) hb
    rw [hcode] at hread
    exact hread
  split
  · -- Of three octets, the second is bounded after `0xE0` and, without surrogates, after `0xED`.
    have hb : ContinuesAfter (n / 4096 % 0x10 + 0xE0) (n / 64 % 0x40 + 0x80) := by
      unfold ContinuesAfter Continues
      omega
    have hc : Continues (n % 0x40 + 0x80) := by
      unfold Continues
      omega
    have hcode : ((n / 4096 % 0x10 + 0xE0) % 0x10 * 0x40 + (n / 64 % 0x40 + 0x80) % 0x40) * 0x40 +
        (n % 0x40 + 0x80) % 0x40 = n := by omega
    have hread := decodeFrom_three start rest (by omega) hb hc
    rw [hcode] at hread
    exact hread
  · -- Of four octets, the second is bounded after `0xF0` and, by the last code point, after `0xF4`.
    have hb : ContinuesAfter (n / 262144 % 0x08 + 0xF0) (n / 4096 % 0x40 + 0x80) := by
      unfold ContinuesAfter Continues
      omega
    have hc : Continues (n / 64 % 0x40 + 0x80) := by
      unfold Continues
      omega
    have hd : Continues (n % 0x40 + 0x80) := by
      unfold Continues
      omega
    have hcode : (((n / 262144 % 0x08 + 0xF0) % 0x8 * 0x40 + (n / 4096 % 0x40 + 0x80) % 0x40) *
        0x40 + (n / 64 % 0x40 + 0x80) % 0x40) * 0x40 + (n % 0x40 + 0x80) % 0x40 = n := by omega
    have hread := decodeFrom_four start rest (by omega) hb hc hd
    rw [hcode] at hread
    exact hread

end Sequences

/-! ## Texts -/

/-- The octets of a character are read back to it, whatever stands after them. -/
theorem decodeFrom_utf8EncodeChar (c : Char) (start : Nat) (rest : List UInt8) :
    ∃ next, decodeFrom start (String.utf8EncodeChar c ++ rest) =
      (decodeFrom next rest).map (c :: ·) := by
  have hvalid : c.toNat.isValidChar := c.valid
  have hread := decodeFrom_octetNumbers start rest hvalid
  rw [Char.ofNat_toNat, ← utf8EncodeChar_eq] at hread
  exact ⟨_, hread⟩

theorem decodeFrom_flatMap (cs : List Char) (start : Nat) :
    decodeFrom start (cs.flatMap String.utf8EncodeChar) = .ok cs := by
  induction cs generalizing start with
  | nil => rfl
  | cons c cs ih =>
    obtain ⟨next, hread⟩ := decodeFrom_utf8EncodeChar c start (cs.flatMap String.utf8EncodeChar)
    rw [List.flatMap_cons, hread, ih]
    rfl

/-- A text is read back from its octets. -/
theorem decode_encode (s : String) : decode (encode s) = .ok s := by
  rw [decode, encode, decodeFrom_flatMap]
  exact congrArg Except.ok String.ofList_toList

end TextTemplate.Text.Utf8
