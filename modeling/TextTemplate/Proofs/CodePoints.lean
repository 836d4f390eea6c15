import Mathlib.Data.List.Forall2
import TextTemplate.Library.Letters
import TextTemplate.Proofs.Numerals

/-!
# Code points

`__char` reads spellings of code points back.

* `Library.Spells` says which texts spell a character: its code point in decimal, or in hexadecimal
  after `0x`, with blanks around it or not.
* `Library.charOfSpelling?_eq_some_iff`: these are the texts that a character is read from.
* `Library.char_spellings`: the characters that arguments spell are given together, and the first
  argument that spells none is an error.
-/

namespace TextTemplate.Library

open Text (IsDigit Numeral isBlank)

/-! ## Spellings -/

/-- Characters spell a code point. -/
inductive IsSpelling : List Char → Nat → Prop where
  | decimal {cs n} (numeral : Numeral.Signed 10 cs n) : IsSpelling cs n
  | hexadecimal {x cs n} (mark : x = 'x' ∨ x = 'X') (numeral : Numeral.Signed 16 cs n) :
      IsSpelling ('0' :: x :: cs) n

/-- A text spells a character, blanks around it aside. -/
def Spells (s : String) (c : Char) : Prop :=
  ∃ before cs after : List Char, s.toList = before ++ cs ++ after ∧
    (∀ b ∈ before, isBlank b = true) ∧ (∀ b ∈ after, isBlank b = true) ∧ IsSpelling cs c.toNat

theorem isBlank_digitChar :
    ∀ d < 16, isBlank (Nat.digitChar d) = false ∧ isBlank (Nat.digitChar d).toUpper = false := by
  decide

theorem not_isBlank_of_isDigit {base : Nat} (hbase : base ≤ 16) {c : Char} {d : Nat}
    (h : IsDigit base c d) : isBlank c = false := by
  rcases h with ⟨hd, rfl | rfl⟩
  · exact (isBlank_digitChar d (by omega)).1
  · exact (isBlank_digitChar d (by omega)).2

theorem not_isBlank_of_signed {base : Nat} (hbase : base ≤ 16) {cs : List Char} {n : Nat}
    (h : Numeral.Signed base cs n) : ∀ c ∈ cs, isBlank c = false := by
  have hdigits : ∀ {ds : List Char}, Numeral base ds n → ∀ c ∈ ds, isBlank c = false := by
    intro ds hds c hc
    obtain ⟨d, hd⟩ := hds.isDigit hc
    exact not_isBlank_of_isDigit hbase hd
  rcases h with h | ⟨ds, rfl, h⟩
  · exact hdigits h
  · exact List.forall_mem_cons.mpr ⟨by decide, hdigits h⟩

theorem IsSpelling.not_isBlank {cs : List Char} {n : Nat} (h : IsSpelling cs n) :
    ∀ c ∈ cs, isBlank c = false := by
  cases h with
  | decimal h => exact not_isBlank_of_signed (by decide) h
  | hexadecimal hx h =>
    refine List.forall_mem_cons.mpr ⟨by decide, List.forall_mem_cons.mpr ⟨?_, ?_⟩⟩
    · rcases hx with rfl | rfl <;> decide
    · exact not_isBlank_of_signed (by decide) h

/-- No decimal numeral starts like a hexadecimal spelling. -/
theorem not_signed_decimal {x : Char} (hx : x = 'x' ∨ x = 'X') {cs : List Char} {n : Nat} :
    ¬ Numeral.Signed 10 ('0' :: x :: cs) n := by
  rintro (h | ⟨ds, hds, -⟩)
  · obtain ⟨d, hd⟩ := h.isDigit (List.mem_cons_of_mem '0' List.mem_cons_self)
    have hvalue := (Text.digitValue?_eq_some_iff (by decide)).mpr hd
    rcases hx with rfl | rfl <;> cases hvalue
  · cases hds

/-! ## Reading them -/

theorem codePointNumber_eq_ok_iff {cs : List Char} {z : Int} :
    codePointNumber cs = .ok z ↔ ∃ n : Nat, z = n ∧ n ≤ 4294967295 ∧ IsSpelling cs n := by
  constructor
  · intro h
    unfold codePointNumber at h
    split at h
    · obtain ⟨n, hz, hle, hnumeral⟩ := (Text.read_unsigned32_iff (by decide)).mp h
      exact ⟨n, hz, hle, .hexadecimal (.inl rfl) hnumeral⟩
    · obtain ⟨n, hz, hle, hnumeral⟩ := (Text.read_unsigned32_iff (by decide)).mp h
      exact ⟨n, hz, hle, .hexadecimal (.inr rfl) hnumeral⟩
    · obtain ⟨n, hz, hle, hnumeral⟩ := (Text.read_unsigned32_iff (by decide)).mp h
      exact ⟨n, hz, hle, .decimal hnumeral⟩
  · rintro ⟨n, hz, hle, hspelling⟩
    cases hspelling with
    | decimal hnumeral =>
      have hread := (Text.read_unsigned32_iff (by decide)).mpr ⟨n, hz, hle, hnumeral⟩
      unfold codePointNumber
      split
      · exact absurd hnumeral (not_signed_decimal (.inl rfl))
      · exact absurd hnumeral (not_signed_decimal (.inr rfl))
      · exact hread
    | hexadecimal hx hnumeral =>
      have hread := (Text.read_unsigned32_iff (by decide)).mpr ⟨n, hz, hle, hnumeral⟩
      rcases hx with rfl | rfl <;> exact hread

theorem charOfSpelling?_eq_some_iff {s : String} {c : Char} :
    charOfSpelling? s = some c ↔ Spells s c := by
  constructor
  · intro h
    unfold charOfSpelling? at h
    split at h
    · cases h
    · rename_i z hz
      obtain ⟨n, rfl, -, hspelling⟩ := codePointNumber_eq_ok_iff.mp hz
      split at h
      · rename_i hvalid
        injection h with hc
        have hn : c.toNat = n := by
          rw [← hc, Char.ofNat, dif_pos hvalid]
          rfl
        obtain ⟨before, after, hs, hbefore, hafter⟩ := Text.exists_toList_eq_trim s
        exact ⟨before, _, after, hs, hbefore, hafter, hn ▸ hspelling⟩
      · cases h
  · rintro ⟨before, cs, after, hs, hbefore, hafter, hspelling⟩
    have hvalid : c.toNat.isValidChar := c.valid
    have hbound : c.toNat ≤ 4294967295 := by
      rcases hvalid with h | h <;> omega
    have hnumber : codePointNumber (Text.trim s).toList = .ok (c.toNat : Int) := by
      rw [Text.toList_trim hs hbefore hspelling.not_isBlank hafter]
      exact codePointNumber_eq_ok_iff.mpr ⟨c.toNat, rfl, hbound, hspelling⟩
    rw [charOfSpelling?, hnumber]
    show (if c.toNat.isValidChar then some (Char.ofNat c.toNat) else none) = some c
    rw [if_pos hvalid, Char.ofNat_toNat]

/-- Zeros in front make no difference, and surrogates are no characters. -/
example : charOfSpelling? " 0X0001f600\n" = some '😀' ∧ charOfSpelling? "55296" = none := by decide

/-- Every character has a spelling in either base. -/
theorem spells_toDigits (c : Char) :
    Spells (String.ofList (Nat.toDigits 10 c.toNat)) c ∧
      Spells (String.ofList ('0' :: 'x' :: Nat.toDigits 16 c.toNat)) c := by
  have hbare : ∀ {cs : List Char}, IsSpelling cs c.toNat → Spells (String.ofList cs) c := by
    intro cs h
    exact ⟨[], cs, [], by simp, nofun, nofun, h⟩
  constructor
  · exact hbare (.decimal (.inl (Text.numeral_toDigits (by decide) _)))
  · exact hbare (.hexadecimal (.inl rfl) (.inl (Text.numeral_toDigits (by decide) _)))

/-! ## Arguments -/

/-- What is reported for the argument at an index if it spells no character. -/
def notACode (index : Nat) (s : String) : InvocationError :=
  .invalidArgument "__char" index ("'" ++ s ++ "' is not a valid character code")

section Arguments

variable {index : Nat} {s : String} {arguments : List String}

theorem charsOfSpellings_cons_of_spells {c : Char} (h : Spells s c) :
    charsOfSpellings index (s :: arguments) =
      (charsOfSpellings (index + 1) arguments).map (c :: ·) := by
  rw [charsOfSpellings, charOfSpelling?_eq_some_iff.mpr h]

theorem charsOfSpellings_cons_of_not_spells (h : ¬ ∃ c, Spells s c) :
    charsOfSpellings index (s :: arguments) = .error (notACode index s) := by
  have hnone : charOfSpelling? s = none := by
    cases hs : charOfSpelling? s with
    | none => rfl
    | some c => exact absurd ⟨c, charOfSpelling?_eq_some_iff.mp hs⟩ h
  rw [charsOfSpellings, hnone]
  rfl

/-- Characters that are all spelled are given together. -/
theorem charsOfSpellings_of_spells {cs : List Char} (h : List.Forall₂ Spells arguments cs) :
    charsOfSpellings index arguments = .ok cs := by
  induction h generalizing index with
  | nil => rfl
  | cons hc _ ih =>
    rw [charsOfSpellings_cons_of_spells hc, ih]
    rfl

/-- The first argument that spells no character is reported. -/
theorem charsOfSpellings_of_not_spells {before after : List String} {bad : String}
    (hbefore : ∀ s ∈ before, ∃ c, Spells s c) (hbad : ¬ ∃ c, Spells bad c) :
    charsOfSpellings index (before ++ bad :: after) =
      .error (notACode (index + before.length) bad) := by
  induction before generalizing index with
  | nil => exact charsOfSpellings_cons_of_not_spells hbad
  | cons s before ih =>
    obtain ⟨⟨c, hc⟩, hrest⟩ := List.forall_mem_cons.mp hbefore
    rw [List.cons_append, charsOfSpellings_cons_of_spells hc, ih hrest, List.length_cons,
      Nat.add_assoc, Nat.add_comm 1]
    rfl

/-- Arguments spell characters throughout, or there is a first one that does not. -/
theorem all_spell_or_first_bad (arguments : List String) :
    (∃ cs, List.Forall₂ Spells arguments cs) ∨
      ∃ before bad after, arguments = before ++ bad :: after ∧
        (∀ s ∈ before, ∃ c, Spells s c) ∧ ¬ ∃ c, Spells bad c := by
  induction arguments with
  | nil => exact .inl ⟨[], .nil⟩
  | cons s arguments ih =>
    by_cases hs : ∃ c, Spells s c
    · rcases ih with ⟨cs, hcs⟩ | ⟨before, bad, after, rfl, hbefore, hbad⟩
      · obtain ⟨c, hc⟩ := hs
        exact .inl ⟨c :: cs, .cons hc hcs⟩
      · exact .inr ⟨s :: before, bad, after, rfl, List.forall_mem_cons.mpr ⟨hs, hbefore⟩, hbad⟩
    · exact .inr ⟨[], s, arguments, rfl, nofun, hs⟩

end Arguments

theorem run_char_of_spells {call : Call} {cs : List Char}
    (h : List.Forall₂ Spells call.arguments cs) :
    (char.run call ()).result = .ok (String.ofList cs) := by
  show (charsOfSpellings 0 call.arguments).map String.ofList = _
  rw [charsOfSpellings_of_spells h]
  rfl

theorem run_char_of_not_spells {call : Call} {before after : List String} {bad : String}
    (harguments : call.arguments = before ++ bad :: after)
    (hbefore : ∀ s ∈ before, ∃ c, Spells s c) (hbad : ¬ ∃ c, Spells bad c) :
    (char.run call ()).result = .error (notACode before.length bad) := by
  show (charsOfSpellings 0 call.arguments).map String.ofList = _
  rw [harguments, charsOfSpellings_of_not_spells hbefore hbad, Nat.zero_add]
  rfl

/-- A text is given back from spellings of its characters, however they are chosen. -/
theorem run_char_map {spelling : Char → String} (h : ∀ c, Spells (spelling c) c) (call : Call)
    (s : String) :
    (char.run { call with arguments := s.toList.map spelling } ()).result = .ok s := by
  have hspells : List.Forall₂ Spells (s.toList.map spelling) s.toList := by
    rw [List.forall₂_map_left_iff, List.forall₂_same]
    exact fun c _ => h c
  rw [run_char_of_spells hspells, String.ofList_toList]

/-- The code points of a text give it back, in either base. -/
theorem run_char_toDigits (call : Call) (s : String) :
    (char.run { call with
        arguments := s.toList.map fun c => String.ofList (Nat.toDigits 10 c.toNat) } ()).result =
      .ok s ∧
    (char.run { call with
        arguments := s.toList.map fun c => String.ofList ('0' :: 'x' :: Nat.toDigits 16 c.toNat) }
      ()).result = .ok s :=
  ⟨run_char_map (fun c => (spells_toDigits c).1) call s,
    run_char_map (fun c => (spells_toDigits c).2) call s⟩

/-- A call of `__char` gives exactly the text whose characters its arguments spell. It fails exactly
if an argument spells none, and reports the first one. -/
theorem char_spellings (call : Call) :
    let result := (char.run call ()).result
    (∀ s : String, result = .ok s ↔ List.Forall₂ Spells call.arguments s.toList) ∧
    ∀ e, result = .error e ↔
      ∃ before bad after, call.arguments = before ++ bad :: after ∧
        (∀ s ∈ before, ∃ c, Spells s c) ∧ (¬ ∃ c, Spells bad c) ∧
        e = notACode before.length bad := by
  intro result
  constructor
  · intro s
    constructor
    · intro h
      rcases all_spell_or_first_bad call.arguments with
        ⟨cs, hcs⟩ | ⟨before, bad, after, harguments, hbefore, hbad⟩
      · have hs := (run_char_of_spells hcs).symm.trans h
        injection hs with hs
        rw [← hs, String.toList_ofList]
        exact hcs
      · have hs := (run_char_of_not_spells harguments hbefore hbad).symm.trans h
        cases hs
    · intro h
      have hs := run_char_of_spells h
      rwa [String.ofList_toList] at hs
  · intro e
    constructor
    · intro h
      rcases all_spell_or_first_bad call.arguments with
        ⟨cs, hcs⟩ | ⟨before, bad, after, harguments, hbefore, hbad⟩
      · have he := (run_char_of_spells hcs).symm.trans h
        cases he
      · have he := (run_char_of_not_spells harguments hbefore hbad).symm.trans h
        injection he with he
        exact ⟨before, bad, after, harguments, hbefore, hbad, he.symm⟩
    · rintro ⟨before, bad, after, harguments, hbefore, hbad, rfl⟩
      exact run_char_of_not_spells harguments hbefore hbad

end TextTemplate.Library
