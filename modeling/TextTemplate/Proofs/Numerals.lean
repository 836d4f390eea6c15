import TextTemplate.Text.Blank
import TextTemplate.Text.Integer

/-!
# Numerals

What counts as a numeral in a text, told without a reader, and that it is what `Bounds.read` reads.

* `Numeral` relates digits to a number, and `Numeral.Signed` allows for a plus sign.
* `read_unsigned32_iff`: an unsigned number is read exactly from a numeral that fits.
* `toList_trim`: what remains of a text without the blanks around it.
-/

namespace TextTemplate.Text

/-! ## Digits -/

/-- A digit and its value. After `9` come the letters from `a`, in either case. -/
def IsDigit (base : Nat) (c : Char) (d : Nat) : Prop :=
  d < base ∧ (c = Nat.digitChar d ∨ c = (Nat.digitChar d).toUpper)

/-- Digits of a base, one at least, and the number that they stand for. -/
inductive Numeral (base : Nat) : List Char → Nat → Prop where
  | digit {c d} (isDigit : IsDigit base c d) : Numeral base [c] d
  | next {cs n c d} (front : Numeral base cs n) (isDigit : IsDigit base c d) :
      Numeral base (cs ++ [c]) (n * base + d)

/-- A numeral with or without a plus sign. -/
def Numeral.Signed (base : Nat) (cs : List Char) (n : Nat) : Prop :=
  Numeral base cs n ∨ ∃ digits, cs = '+' :: digits ∧ Numeral base digits n

/-- The digits of a number are a numeral for it. -/
theorem numeral_toDigits {base : Nat} (hbase : 1 < base) (n : Nat) :
    Numeral base (Nat.toDigits base n) n := by
  induction n using Nat.strongRecOn with
  | ind n ih =>
    by_cases hn : n < base
    · rw [Nat.toDigits_of_lt_base hn]
      exact .digit ⟨hn, .inl rfl⟩
    · have hle : base ≤ n := Nat.le_of_not_lt hn
      have hlast : IsDigit base (n % base).digitChar (n % base) :=
        ⟨Nat.mod_lt n (by omega), .inl rfl⟩
      have hfront := ih (n / base) (Nat.div_lt_self (by omega) hbase)
      have hall := Numeral.next hfront hlast
      rw [Nat.mul_comm, Nat.div_add_mod] at hall
      rw [Nat.toDigits_of_base_le hbase hle]
      exact hall

theorem digitValue?_digitChar :
    ∀ d < 16, digitValue? 16 (Nat.digitChar d) = some d ∧
      digitValue? 16 (Nat.digitChar d).toUpper = some d := by
  decide

theorem digitChar_of_digitValue? :
    ∀ n < 128, ∀ d ∈ digitValue? 16 (Char.ofNat n),
      Char.ofNat n = Nat.digitChar d ∨ Char.ofNat n = (Nat.digitChar d).toUpper := by
  decide

theorem digitValue?_eq_some_of_le {base : Nat} (hbase : base ≤ 16) {c : Char} {d : Nat} :
    digitValue? base c = some d ↔ digitValue? 16 c = some d ∧ d < base := by
  simp only [digitValue?, Option.filter_eq_some_iff, decide_eq_true_eq]
  constructor
  · rintro ⟨hvalue, hd⟩
    exact ⟨⟨hvalue, by omega⟩, hd⟩
  · rintro ⟨⟨hvalue, -⟩, hd⟩
    exact ⟨hvalue, hd⟩

theorem lt_of_digitValue? {base : Nat} {c : Char} {d : Nat} (h : digitValue? base c = some d) :
    c.toNat < 128 := by
  obtain ⟨hvalue, -⟩ := Option.filter_eq_some_iff.mp h
  split at hvalue
  · rename_i hc
    exact Nat.lt_of_le_of_lt (Char.le_def.mp hc.2) (by decide)
  · split at hvalue
    · rename_i hc
      exact Nat.lt_of_le_of_lt (Char.le_def.mp hc.2) (by decide)
    · split at hvalue
      · rename_i hc
        exact Nat.lt_of_le_of_lt (Char.le_def.mp hc.2) (by decide)
      · cases hvalue

theorem digitValue?_eq_some_iff {base : Nat} (hbase : base ≤ 16) {c : Char} {d : Nat} :
    digitValue? base c = some d ↔ IsDigit base c d := by
  rw [digitValue?_eq_some_of_le hbase]
  constructor
  · rintro ⟨hvalue, hd⟩
    have hchar := digitChar_of_digitValue? c.toNat (lt_of_digitValue? hvalue) d
    rw [Char.ofNat_toNat] at hchar
    exact ⟨hd, hchar hvalue⟩
  · rintro ⟨hd, rfl | rfl⟩
    · exact ⟨(digitValue?_digitChar d (by omega)).1, hd⟩
    · exact ⟨(digitValue?_digitChar d (by omega)).2, hd⟩

/-! ## Reading digits -/

section Digits

variable {base limit m n : Nat} {overflow : IntegerError} {cs ds : List Char}

theorem readDigits_cons_eq_ok_iff {c : Char} :
    readDigits base limit overflow m (c :: cs) = .ok n ↔
      ∃ d, digitValue? base c = some d ∧ m * base + d ≤ limit ∧
        readDigits base limit overflow (m * base + d) cs = .ok n := by
  rw [readDigits]
  cases digitValue? base c with
  | none => simp
  | some d =>
    by_cases hle : m * base + d ≤ limit
    · simp [hle]
    · simp [hle]

theorem readDigits_append {k : Nat} (h : readDigits base limit overflow m cs = .ok k)
    (h' : readDigits base limit overflow k ds = .ok n) :
    readDigits base limit overflow m (cs ++ ds) = .ok n := by
  induction cs generalizing m with
  | nil =>
    cases h
    exact h'
  | cons c cs ih =>
    obtain ⟨d, hd, hle, hrest⟩ := readDigits_cons_eq_ok_iff.mp h
    exact readDigits_cons_eq_ok_iff.mpr ⟨d, hd, hle, ih hrest⟩

variable (hbase : base ≤ 16)

include hbase

/-- A numeral that fits is read. -/
theorem readDigits_of_numeral (h : Numeral base cs n) (hn : n ≤ limit) :
    readDigits base limit overflow 0 cs = .ok n := by
  induction h with
  | @digit c d hdigit =>
    have hd := (digitValue?_eq_some_iff hbase).mpr hdigit
    refine readDigits_cons_eq_ok_iff.mpr ⟨d, hd, ?_, ?_⟩
    · omega
    · rw [Nat.zero_mul, Nat.zero_add]
      rfl
  | @next cs n c d _ hdigit ih =>
    have hd := (digitValue?_eq_some_iff hbase).mpr hdigit
    have hle : n ≤ n * base := Nat.le_mul_of_pos_right n (Nat.zero_lt_of_lt hdigit.1)
    exact readDigits_append (ih (by omega)) (readDigits_cons_eq_ok_iff.mpr ⟨d, hd, hn, rfl⟩)

/-- What is read after a numeral goes on with it. -/
theorem Numeral.append_of_readDigits (hcs : Numeral base cs m)
    (h : readDigits base limit overflow m ds = .ok n) : Numeral base (cs ++ ds) n := by
  induction ds generalizing cs m with
  | nil =>
    cases h
    rw [List.append_nil]
    exact hcs
  | cons c ds ih =>
    obtain ⟨d, hd, -, hrest⟩ := readDigits_cons_eq_ok_iff.mp h
    rw [List.append_cons]
    exact ih (.next hcs ((digitValue?_eq_some_iff hbase).mp hd)) hrest

theorem readDigits_eq_ok_iff (hne : cs ≠ []) :
    readDigits base limit overflow 0 cs = .ok n ↔ Numeral base cs n ∧ n ≤ limit := by
  constructor
  · intro h
    refine ⟨?_, readDigits_le (Nat.zero_le limit) h⟩
    cases cs with
    | nil => exact absurd rfl hne
    | cons c cs =>
      obtain ⟨d, hd, -, hrest⟩ := readDigits_cons_eq_ok_iff.mp h
      rw [Nat.zero_mul, Nat.zero_add] at hrest
      exact Numeral.append_of_readDigits hbase (.digit ((digitValue?_eq_some_iff hbase).mp hd))
        hrest
  · rintro ⟨h, hn⟩
    exact readDigits_of_numeral hbase h hn

end Digits

/-! ## Reading numbers -/

theorem Numeral.ne_nil {base n : Nat} {cs : List Char} (h : Numeral base cs n) : cs ≠ [] := by
  cases h with
  | digit => exact List.cons_ne_nil _ _
  | next => exact List.append_ne_nil_of_right_ne_nil _ (List.cons_ne_nil _ _)

/-- A numeral has digits only. -/
theorem Numeral.isDigit {base n : Nat} {cs : List Char} (h : Numeral base cs n) {c : Char}
    (hc : c ∈ cs) : ∃ d, IsDigit base c d := by
  induction h with
  | @digit c' d hdigit =>
    obtain rfl := List.mem_singleton.mp hc
    exact ⟨d, hdigit⟩
  | @next cs n c' d _ hdigit ih =>
    rcases List.mem_append.mp hc with hc | hc
    · exact ih hc
    · obtain rfl := List.mem_singleton.mp hc
      exact ⟨d, hdigit⟩

theorem readPositive_eq_ok_iff {bounds : Bounds} {base : Nat} (hbase : base ≤ 16)
    {cs : List Char} (hne : cs ≠ []) {z : Int} :
    Bounds.read.readPositive bounds base cs = .ok z ↔
      ∃ n : Nat, z = n ∧ n ≤ bounds.greatest.natAbs ∧ Numeral base cs n := by
  constructor
  · intro h
    obtain ⟨n, hn, rfl⟩ := exists_of_map_eq_ok h
    obtain ⟨hnumeral, hle⟩ := (readDigits_eq_ok_iff hbase hne).mp hn
    exact ⟨n, rfl, hle, hnumeral⟩
  · rintro ⟨n, rfl, hle, hnumeral⟩
    rw [Bounds.read.readPositive, (readDigits_eq_ok_iff hbase hne).mpr ⟨hnumeral, hle⟩]
    rfl

theorem IsDigit.ne_sign {base d : Nat} (hbase : base ≤ 16) {c : Char} (h : IsDigit base c d) :
    c ≠ '+' ∧ c ≠ '-' := by
  have hd := (digitValue?_eq_some_of_le hbase).mp ((digitValue?_eq_some_iff hbase).mpr h)
  constructor
  · rintro rfl
    cases hd.1
  · rintro rfl
    cases hd.1

theorem read_cons_of_ne_sign {bounds : Bounds} {base : Nat} {c : Char} {cs : List Char}
    (h : c ≠ '+' ∧ c ≠ '-') :
    bounds.read base (c :: cs) = Bounds.read.readPositive bounds base (c :: cs) := by
  unfold Bounds.read
  split <;> simp_all

/-- An unsigned number is read exactly from a numeral that fits. -/
theorem read_unsigned32_iff {base : Nat} (hbase : base ≤ 16) {cs : List Char} {z : Int} :
    Bounds.unsigned32.read base cs = .ok z ↔
      ∃ n : Nat, z = n ∧ n ≤ 4294967295 ∧ Numeral.Signed base cs n := by
  constructor
  · intro h
    unfold Bounds.read at h
    split at h
    · cases h
    · cases h
    · cases h
    · rename_i digits hlone
      have hne : digits ≠ [] := by
        rintro rfl
        exact hlone rfl
      obtain ⟨n, hz, hle, hnumeral⟩ := (readPositive_eq_ok_iff hbase hne).mp h
      exact ⟨n, hz, hle, .inr ⟨digits, rfl, hnumeral⟩⟩
    · cases h
    · rename_i hnil _ _ _ _
      obtain ⟨n, hz, hle, hnumeral⟩ := (readPositive_eq_ok_iff hbase hnil).mp h
      exact ⟨n, hz, hle, .inl hnumeral⟩
  · rintro ⟨n, hz, hle, hnumeral | ⟨digits, rfl, hnumeral⟩⟩
    · have hread : Bounds.read.readPositive .unsigned32 base cs = .ok z :=
        (readPositive_eq_ok_iff hbase hnumeral.ne_nil).mpr ⟨n, hz, hle, hnumeral⟩
      cases cs with
      | nil => exact absurd rfl hnumeral.ne_nil
      | cons c cs =>
        obtain ⟨d, hd⟩ := hnumeral.isDigit List.mem_cons_self
        rw [read_cons_of_ne_sign (hd.ne_sign hbase), hread]
    · have hread : Bounds.read.readPositive .unsigned32 base digits = .ok z :=
        (readPositive_eq_ok_iff hbase hnumeral.ne_nil).mpr ⟨n, hz, hle, hnumeral⟩
      cases digits with
      | nil => exact absurd rfl hnumeral.ne_nil
      | cons c cs => exact hread

/-! ## Blanks -/

theorem dropWhile_of_forall_false {p : Char → Bool} {cs : List Char} (h : ∀ c ∈ cs, p c = false) :
    cs.dropWhile p = cs := by
  cases cs with
  | nil => rfl
  | cons c cs => rw [List.dropWhile_cons, h c List.mem_cons_self, if_neg Bool.false_ne_true]

theorem dropEndWhile_append {p : Char → Bool} {cs ds : List Char} (hcs : ∀ c ∈ cs, p c = false)
    (hds : ∀ d ∈ ds, p d = true) : dropEndWhile p (cs ++ ds) = cs := by
  have hrev : ∀ d ∈ ds.reverse, p d = true := fun d hd => hds d (List.mem_reverse.mp hd)
  have hkept : ∀ c ∈ cs.reverse, p c = false := fun c hc => hcs c (List.mem_reverse.mp hc)
  rw [dropEndWhile, List.reverse_append, List.dropWhile_append_of_pos hrev,
    dropWhile_of_forall_false hkept, List.reverse_reverse]

/-- The blanks around other characters are dropped. -/
theorem toList_trim {s : String} {before cs after : List Char}
    (hs : s.toList = before ++ cs ++ after) (hbefore : ∀ c ∈ before, isBlank c = true)
    (hcs : ∀ c ∈ cs, isBlank c = false) (hafter : ∀ c ∈ after, isBlank c = true) :
    (trim s).toList = cs := by
  rw [trim, String.toList_ofList, hs, List.append_assoc, List.dropWhile_append_of_pos hbefore]
  by_cases hne : cs = []
  · subst hne
    have hall : after.dropWhile isBlank = [] := by
      rw [← List.append_nil after, List.dropWhile_append_of_pos hafter]
      rfl
    rw [List.nil_append, hall]
    rfl
  · rw [List.dropWhile_append, dropWhile_of_forall_false hcs, if_neg (by simpa using hne)]
    exact dropEndWhile_append hcs hafter

/-- Nothing but blanks is dropped. -/
theorem exists_toList_eq_trim (s : String) :
    ∃ before after : List Char, s.toList = before ++ (trim s).toList ++ after ∧
      (∀ c ∈ before, isBlank c = true) ∧ ∀ c ∈ after, isBlank c = true := by
  let rest := s.toList.dropWhile isBlank
  refine ⟨s.toList.takeWhile isBlank, (rest.reverse.takeWhile isBlank).reverse, ?_, ?_, ?_⟩
  · have hrest : dropEndWhile isBlank rest ++ (rest.reverse.takeWhile isBlank).reverse = rest := by
      rw [dropEndWhile, ← List.reverse_append, List.takeWhile_append_dropWhile,
        List.reverse_reverse]
    rw [trim, String.toList_ofList, List.append_assoc, hrest, List.takeWhile_append_dropWhile]
  · exact List.all_eq_true.mp List.all_takeWhile
  · intro c hc
    exact List.all_eq_true.mp List.all_takeWhile c (List.mem_reverse.mp hc)

end TextTemplate.Text
