import TextTemplate.Proofs.Utf8RoundTrip
import TextTemplate.Text.FormEncoding

/-!
# Reading the form encoding back

A text is read back from its form encoding, which is plain ASCII.

* `IsWritten` says what form encodings are made of, and `isWritten_encode` that they are.
* `decodeOctets_written`: an octet is read back from its written form, whatever stands after it.
  So is a text (`decode_encode`).
* `encode_eq_percentEncode` and `decode_eq_percentDecode` have the same in two stages, where the
  sign for a space is put in after percent encoding and taken out before percent decoding. No `%20`
  and no `+` of the text itself meets these replacements.
-/

namespace TextTemplate.Text.FormEncoding

/-! ## Digits and plain characters -/

/-- The digits of base 16, with capital letters. -/
def capitalDigits : List Char := "0123456789ABCDEF".toList

theorem mem_capitalDigits : ∀ n < 16, hexDigit n ∈ capitalDigits := by decide

theorem lt_of_hexDigit : ∀ n < 16, (hexDigit n).toNat < 128 := by decide

theorem hexValue?_hexDigit :
    ∀ n < 16, hexValue? (UInt8.ofNat (hexDigit n).toNat) = some (UInt8.ofNat n) := by decide

theorem hexDigit_ne_percent : ∀ n < 16, hexDigit n ≠ '%' := by decide

theorem eq_of_hexDigits_space :
    ∀ m < 16, ∀ n < 16, hexDigit m = '2' → hexDigit n = '0' → m = 2 ∧ n = 0 := by decide

section Halves

variable (b : UInt8)

theorem high_lt : b.toNat / 16 < 16 := by
  have hlt : b.toNat < 256 := b.toNat_lt
  omega

theorem low_lt : b.toNat % 16 < 16 := Nat.mod_lt _ (by decide)

/-- An octet is sixteen times its high half, and its low half. -/
theorem ofNat_halves : UInt8.ofNat (b.toNat / 16) * 16 + UInt8.ofNat (b.toNat % 16) = b := by
  have hhigh := high_lt b
  have hlow := low_lt b
  have hsixteen : (16 : UInt8).toNat = 16 := rfl
  rw [← UInt8.toNat_inj, UInt8.toNat_add, UInt8.toNat_mul, Utf8.toNat_ofNat (by omega),
    Utf8.toNat_ofNat (by omega), hsixteen]
  omega

/-- The octet of a code point below 256 is not changed by way of a character. -/
theorem toNat_ofNat_octet : (Char.ofNat b.toNat).toNat = b.toNat := by
  have hvalid : b.toNat.isValidChar := .inl (Nat.lt_trans b.toNat_lt (by decide))
  rw [Char.ofNat, dif_pos hvalid]
  rfl

end Halves

/-- Whether a character stands for itself in a form encoding. -/
def isKept (c : Char) : Bool := c.isAlphanum || ['.', '-', '*', '_'].contains c

theorem lt_of_isAlphanum {c : Char} (h : c.isAlphanum = true) : c.toNat < 128 := by
  -- The classes of characters, written out.
  have hranges : ((decide ('A'.val ≤ c.val ∧ c.val ≤ 'Z'.val) ||
      (decide ('a'.val ≤ c.val) && decide (c.val ≤ 'z'.val))) ||
      (decide ('0'.val ≤ c.val) && decide (c.val ≤ '9'.val))) = true := h
  simp only [Bool.or_eq_true, Bool.and_eq_true, decide_eq_true_eq, UInt32.le_iff_toNat_le]
    at hranges
  rcases hranges with (⟨-, hle⟩ | ⟨-, hle⟩) | ⟨-, hle⟩
  · exact Nat.lt_of_le_of_lt hle (by decide)
  · exact Nat.lt_of_le_of_lt hle (by decide)
  · exact Nat.lt_of_le_of_lt hle (by decide)

theorem lt_of_isKept {c : Char} (h : isKept c = true) : c.toNat < 128 := by
  simp only [isKept, Bool.or_eq_true, List.contains_iff_mem, List.mem_cons, List.not_mem_nil,
    or_false] at h
  rcases h with h | rfl | rfl | rfl | rfl
  · exact lt_of_isAlphanum h
  all_goals decide

/-- A plain octet is that of a character that is kept. -/
theorem isKept_of_isPlain {b : UInt8} (h : isPlain b = true) :
    isKept (Char.ofNat b.toNat) = true := by
  simp only [isPlain, Bool.or_eq_true, Bool.and_eq_true, beq_iff_eq] at h
  simp only [isKept, Bool.or_eq_true, List.contains_iff_mem, List.mem_cons, List.not_mem_nil,
    or_false]
  rcases h with (((⟨-, h⟩ | h) | h) | h) | h
  · exact .inl h
  · simp [h]
  · simp [h]
  · simp [h]
  · simp [h]

theorem ne_of_isPlain {b sign : UInt8} (h : isPlain b = true) (hsign : isPlain sign = false) :
    b ≠ sign := by
  rintro rfl
  rw [h] at hsign
  cases hsign

/-! ## What is written -/

/-- What form encodings are made of: letters, digits and four signs, a sign for a space, and other
octets by two digits. -/
inductive IsWritten : List Char → Prop where
  | nil : IsWritten []
  | kept {c cs} (plain : isKept c = true) (rest : IsWritten cs) : IsWritten (c :: cs)
  | space {cs} (rest : IsWritten cs) : IsWritten ('+' :: cs)
  | octet {high low cs} (digit : high ∈ capitalDigits) (digit' : low ∈ capitalDigits)
      (rest : IsWritten cs) : IsWritten ('%' :: high :: low :: cs)

/-- The three ways in which an octet is written. -/
theorem encodeOctet_cases (b : UInt8) :
    (isPlain b = true ∧ encodeOctet b = [Char.ofNat b.toNat]) ∨
      (b = 0x20 ∧ encodeOctet b = ['+']) ∨
      (isPlain b = false ∧ b ≠ 0x20 ∧
        encodeOctet b = ['%', hexDigit (b.toNat / 16), hexDigit (b.toNat % 16)]) := by
  by_cases hplain : isPlain b = true
  · left
    exact ⟨hplain, by rw [encodeOctet, if_pos hplain]⟩
  right
  by_cases hspace : b = 0x20
  · left
    exact ⟨hspace, by rw [encodeOctet, if_neg hplain, if_pos hspace]⟩
  · right
    exact ⟨Bool.not_eq_true _ ▸ hplain, hspace,
      by rw [encodeOctet, if_neg hplain, if_neg hspace]⟩

theorem isWritten_encodeOctets (bs : List UInt8) : IsWritten (bs.flatMap encodeOctet) := by
  induction bs with
  | nil => exact .nil
  | cons b bs ih =>
    rw [List.flatMap_cons]
    rcases encodeOctet_cases b with ⟨hplain, heq⟩ | ⟨-, heq⟩ | ⟨-, -, heq⟩
    · rw [heq]
      exact .kept (isKept_of_isPlain hplain) ih
    · rw [heq]
      exact .space ih
    · rw [heq]
      exact .octet (mem_capitalDigits _ (high_lt b)) (mem_capitalDigits _ (low_lt b)) ih

/-- A form encoding is made of the characters that it can be made of. -/
theorem isWritten_encode (s : String) : IsWritten (encode s).toList := by
  rw [encode, String.toList_ofList]
  exact isWritten_encodeOctets _

/-! ## Reading back -/

/-- An ASCII character is one octet. -/
theorem utf8EncodeChar_of_lt {c : Char} (h : c.toNat < 128) :
    String.utf8EncodeChar c = [UInt8.ofNat c.toNat] := by
  rw [Utf8.utf8EncodeChar_eq, Utf8.octetNumbers, if_pos (by omega)]
  rfl

theorem decodeOctets_of_ne {b : UInt8} (h : b ≠ 0x25) (rest : List UInt8) :
    decodeOctets (b :: rest) = (if b = 0x2B then 0x20 else b) :: decodeOctets rest := by
  rw [decodeOctets]
  rintro _ _ _ rfl
  exact absurd rfl h

theorem decodeOctets_digits {h l high low : UInt8} (hh : hexValue? h = some high)
    (hl : hexValue? l = some low) (rest : List UInt8) :
    decodeOctets (0x25 :: h :: l :: rest) = (high * 16 + low) :: decodeOctets rest := by
  rw [decodeOctets, hh, hl]

/-- An octet is read back from its written form, whatever stands after it. -/
theorem decodeOctets_written (b : UInt8) (rest : List UInt8) :
    decodeOctets ((encodeOctet b).flatMap String.utf8EncodeChar ++ rest) =
      b :: decodeOctets rest := by
  rcases encodeOctet_cases b with ⟨hplain, heq⟩ | ⟨rfl, heq⟩ | ⟨-, -, heq⟩
  · have hascii := utf8EncodeChar_of_lt (lt_of_isKept (isKept_of_isPlain hplain))
    rw [toNat_ofNat_octet, UInt8.ofNat_toNat] at hascii
    rw [heq, List.flatMap_singleton, hascii, List.singleton_append,
      decodeOctets_of_ne (ne_of_isPlain hplain (by decide)),
      if_neg (ne_of_isPlain hplain (by decide))]
  · rw [heq]
    exact decodeOctets_of_ne (by decide) rest
  · have hhigh := utf8EncodeChar_of_lt (lt_of_hexDigit _ (high_lt b))
    have hlow := utf8EncodeChar_of_lt (lt_of_hexDigit _ (low_lt b))
    have hread := decodeOctets_digits (hexValue?_hexDigit _ (high_lt b))
      (hexValue?_hexDigit _ (low_lt b)) rest
    rw [ofNat_halves] at hread
    simp only [heq, List.flatMap_cons, List.flatMap_nil, hhigh, hlow]
    exact hread

theorem decodeOctets_encodeOctets (bs : List UInt8) :
    decodeOctets ((bs.flatMap encodeOctet).flatMap String.utf8EncodeChar) = bs := by
  rw [List.flatMap_assoc]
  induction bs with
  | nil => rfl
  | cons b bs ih => rw [List.flatMap_cons, decodeOctets_written, ih]

/-- A text is read back from its form encoding. -/
theorem decode_encode (s : String) : decode (encode s) = .ok s := by
  have hoctets : Utf8.encode (encode s) =
      ((Utf8.encode s).flatMap encodeOctet).flatMap String.utf8EncodeChar := by
    rw [encode, Utf8.encode, String.toList_ofList]
  rw [decode, hoctets, decodeOctets_encodeOctets, Utf8.decode_encode]

/-! ## Two stages -/

/-- An octet in percent encoding, where a space is written like any other octet that is not
plain. -/
def percentOctet (b : UInt8) : List Char :=
  if isPlain b then [Char.ofNat b.toNat]
  else ['%', hexDigit (b.toNat / 16), hexDigit (b.toNat % 16)]

/-- The percent encoding of a text. -/
def percentEncode (s : String) : List Char := (Utf8.encode s).flatMap percentOctet

/-- Puts a `+` for every `%20`, from the left. -/
def plusForSpace : List Char → List Char
  | [] => []
  | '%' :: '2' :: '0' :: cs => '+' :: plusForSpace cs
  | c :: cs => c :: plusForSpace cs

theorem plusForSpace_of_ne {c : Char} (h : c ≠ '%') (cs : List Char) :
    plusForSpace (c :: cs) = c :: plusForSpace cs := by
  rw [plusForSpace]
  rintro _ rfl
  exact absurd rfl h

/-- After percent encoding, a `%20` is a space, and nothing but an octet of its own. -/
theorem plusForSpace_percentOctet (b : UInt8) (cs : List Char) :
    plusForSpace (percentOctet b ++ cs) = encodeOctet b ++ plusForSpace cs := by
  rcases encodeOctet_cases b with ⟨hplain, heq⟩ | ⟨rfl, heq⟩ | ⟨hplain, hspace, heq⟩
  · have hc : Char.ofNat b.toNat ≠ '%' := by
      intro hc
      have hkept := isKept_of_isPlain hplain
      rw [hc] at hkept
      cases hkept
    rw [heq, percentOctet, if_pos hplain]
    exact plusForSpace_of_ne hc cs
  · rw [heq]
    rfl
  · have hdigits : percentOctet b =
        ['%', hexDigit (b.toNat / 16), hexDigit (b.toNat % 16)] := by
      rw [percentOctet, hplain]
      rfl
    have hother : ¬ (hexDigit (b.toNat / 16) = '2' ∧ hexDigit (b.toNat % 16) = '0') := by
      rintro ⟨htwo, hzero⟩
      obtain ⟨hh, hl⟩ := eq_of_hexDigits_space _ (high_lt b) _ (low_lt b) htwo hzero
      refine hspace (UInt8.toNat_inj.mp ?_)
      have htwenty : (0x20 : UInt8).toNat = 32 := rfl
      omega
    rw [heq, hdigits]
    simp only [List.cons_append, List.nil_append]
    rw [plusForSpace, plusForSpace_of_ne (hexDigit_ne_percent _ (high_lt b)),
      plusForSpace_of_ne (hexDigit_ne_percent _ (low_lt b))]
    intro rest _ hrest
    injection hrest with htwo hrest
    injection hrest with hzero _
    exact hother ⟨htwo, hzero⟩

/-- The form encoding is the percent encoding with a `+` put for every `%20`. -/
theorem encode_eq_percentEncode (s : String) :
    encode s = String.ofList (plusForSpace (percentEncode s)) := by
  have hbytes : ∀ bs : List UInt8,
      plusForSpace (bs.flatMap percentOctet) = bs.flatMap encodeOctet := by
    intro bs
    induction bs with
    | nil => rfl
    | cons b bs ih => rw [List.flatMap_cons, plusForSpace_percentOctet, ih, List.flatMap_cons]
  rw [percentEncode, hbytes, encode]

example : percentEncode "a b+é%20" = "a%20b%2B%C3%A9%2520".toList ∧
    encode "a b+é%20" = "a+b%2B%C3%A9%2520" := by decide

/-- What octets in percent encoding stand for: a `%` with two digits is the octet of these, and
everything else is left as it is. -/
def percentDecode : List UInt8 → List UInt8
  | [] => []
  | 0x25 :: h :: l :: rest =>
    match hexValue? h, hexValue? l with
    | some high, some low => (high * 16 + low) :: percentDecode rest
    | _, _ => 0x25 :: percentDecode (h :: l :: rest)
  | b :: rest => b :: percentDecode rest

/-- A character with a space put for `+`. -/
def spaceForPlus (c : Char) : Char := if c = '+' then ' ' else c

/-- An octet with a space put for `+`. -/
def spaceForPlusOctet (b : UInt8) : UInt8 := if b = 0x2B then 0x20 else b

/-- No octet of another character is that of `+`. -/
theorem ne_plus_of_mem {c : Char} (hc : c ≠ '+') {b : UInt8} (hb : b ∈ String.utf8EncodeChar c) :
    b ≠ 0x2B := by
  rw [Utf8.utf8EncodeChar_eq] at hb
  obtain ⟨k, hk, rfl⟩ := List.mem_map.mp hb
  intro hplus
  have hnumber : k = 0x2B := by
    rw [← Utf8.toNat_ofNat (Utf8.lt_of_mem_octetNumbers hk), hplus]
    rfl
  -- An octet below 128 is a character by itself.
  have hcode : c.toNat = 0x2B := by
    unfold Utf8.octetNumbers at hk
    split at hk
    · rw [← hnumber, List.mem_singleton.mp hk]
    split at hk
    · simp only [List.mem_cons, List.not_mem_nil, or_false] at hk
      omega
    split at hk
    · simp only [List.mem_cons, List.not_mem_nil, or_false] at hk
      omega
    · simp only [List.mem_cons, List.not_mem_nil, or_false] at hk
      omega
  exact hc (by rw [← Char.ofNat_toNat c, hcode])

theorem utf8EncodeChar_spaceForPlus (c : Char) :
    String.utf8EncodeChar (spaceForPlus c) =
      (String.utf8EncodeChar c).map spaceForPlusOctet := by
  by_cases hc : c = '+'
  · subst hc
    decide
  · have hkept : ∀ b ∈ String.utf8EncodeChar c, spaceForPlusOctet b = id b := by
      intro b hb
      rw [spaceForPlusOctet, if_neg (ne_plus_of_mem hc hb), id]
    rw [spaceForPlus, if_neg hc, List.map_congr_left hkept, List.map_id]

/-- Neither a `+` nor a space is a digit. -/
theorem hexValue?_spaceForPlusOctet (b : UInt8) :
    hexValue? (spaceForPlusOctet b) = hexValue? b := by
  unfold spaceForPlusOctet
  split
  · rename_i h
    rw [h]
    rfl
  · rfl

theorem eq_percent_of_spaceForPlusOctet {b : UInt8} (h : spaceForPlusOctet b = 0x25) :
    b = 0x25 := by
  unfold spaceForPlusOctet at h
  split at h
  · cases h
  · exact h

-- The cases are those of decoding. No replacement makes or breaks a `%` with two digits, so that
-- the octets with the replacement done are in the same case.
theorem percentDecode_spaceForPlus (bs : List UInt8) :
    percentDecode (bs.map spaceForPlusOctet) = decodeOctets bs := by
  have hpercent : spaceForPlusOctet 0x25 = 0x25 := by decide
  fun_induction decodeOctets bs with
  | case1 => rfl
  | case2 h l rest high low hl hh ih =>
    rw [← ih]
    simp only [List.map_cons, hpercent, percentDecode, hexValue?_spaceForPlusOctet, hh, hl]
  | case3 h l rest hnone ih =>
    rw [← ih]
    simp only [List.map_cons, hpercent, percentDecode, hexValue?_spaceForPlusOctet]
  | case4 b rest hother ih =>
    have hother' : ∀ h l rest', spaceForPlusOctet b = 0x25 →
        rest.map spaceForPlusOctet = h :: l :: rest' → False := by
      intro h l rest' hb hrest
      obtain ⟨h, tail, rfl, -, htail⟩ := List.map_eq_cons_iff.mp hrest
      obtain ⟨l, tail, rfl, -, -⟩ := List.map_eq_cons_iff.mp htail
      exact hother h l tail (eq_percent_of_spaceForPlusOctet hb) rfl
    rw [List.map_cons, percentDecode, ih]
    · rfl
    · exact hother'

/-- Decoding is percent decoding after a space is put for every `+`. -/
theorem decode_eq_percentDecode (s : String) :
    decode s =
      Utf8.decode (percentDecode (Utf8.encode (String.ofList (s.toList.map spaceForPlus)))) := by
  have hoctets : Utf8.encode (String.ofList (s.toList.map spaceForPlus)) =
      (Utf8.encode s).map spaceForPlusOctet := by
    rw [Utf8.encode, Utf8.encode, String.toList_ofList, List.flatMap_map, List.map_flatMap]
    congr 1
    funext c
    exact utf8EncodeChar_spaceForPlus c
  rw [hoctets, percentDecode_spaceForPlus, decode]

end TextTemplate.Text.FormEncoding
