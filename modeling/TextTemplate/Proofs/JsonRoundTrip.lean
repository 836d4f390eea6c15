import TextTemplate.Json.Printer
import TextTemplate.Json.Reader
import TextTemplate.Proofs.Numerals

/-!
# Reading JSON back

A JSON value is read back from the text that is written for it.

* `Json.IsPlain` leaves out the values that have no text of their own.
* `JsonToken.scan_natural` and `JsonToken.scan_string`: digits and strings are scanned as the
  numbers and texts that they were written for.
* `JsonReader.ReadsBack`: in front of the text of a value, a reader gets that value and goes on
  behind it. Each kind of value has this property if its parts have.
* `Json.parse?_render`: what is written for a plain value is read as that value.
-/

namespace TextTemplate

/-- A value that is not written as another one: its numbers are natural, and its strings have
texts. -/
inductive Json.IsPlain : Json → Prop where
  | null : IsPlain .null
  | bool (value : Bool) : IsPlain (.bool value)
  | natural (value : Nat) : IsPlain (.natural value)
  | string (s : String) : IsPlain (.ofString s)
  | array {items : List Json} (items_plain : ∀ item ∈ items, IsPlain item) :
      IsPlain (.array items)
  | object {members : List (String × Json)} (members_plain : ∀ m ∈ members, IsPlain m.2) :
      IsPlain (.ofMembers members)

/-- A member with a text as its key. -/
def JsonMember.ofPair (m : String × Json) : JsonMember := ⟨some m.1, m.2⟩

theorem Json.ofMembers_eq (members : List (String × Json)) :
    Json.ofMembers members = .object (members.map JsonMember.ofPair) := rfl

namespace JsonToken

/-! ## Scanning tokens -/

/-- What may follow a value inside of another one, or nothing. -/
def Ends (cs : List Char) : Prop := ∀ c ∈ cs.head?, c = ',' ∨ c = ']' ∨ c = '}'

theorem ends_nil : Ends [] := fun _ h => nomatch h

theorem ends_cons {c : Char} {cs : List Char} (h : c = ',' ∨ c = ']' ∨ c = '}') : Ends (c :: cs) :=
  fun _ hd => Option.some.inj hd ▸ h

/-- In front of `cs`, a text is scanned as one token. -/
def ScansTo (text : List Char) (token : JsonToken) (cs : List Char) : Prop :=
  scanFrom? .between (text ++ cs) = (scanFrom? .between cs).map (token :: ·)

section Steps

variable {mode next : Mode} {c : Char} {cs : List Char} {token : JsonToken}

/-- A character in the midst of a token. -/
theorem scanFrom?_within (h : step mode c = some ([], next)) :
    scanFrom? mode (c :: cs) = scanFrom? next cs := by
  rw [scanFrom?, h]
  cases hrest : scanFrom? next cs <;> simp [hrest]

/-- The last character of a token. -/
theorem scanFrom?_last (h : step mode c = some ([token], next)) :
    scanFrom? mode (c :: cs) = (scanFrom? next cs).map (token :: ·) := by
  rw [scanFrom?, h]
  rfl

end Steps

theorem scan_mark {c : Char} {token : JsonToken} (h : stepBetween c = some ([token], .between))
    (cs : List Char) : ScansTo [c] token cs :=
  scanFrom?_last h

theorem scan_rest_of_word (token : JsonToken) {rest : List Char} (hrest : rest ≠ [])
    (cs : List Char) :
    scanFrom? (.word rest token) (rest ++ cs) = (scanFrom? .between cs).map (token :: ·) := by
  induction rest with
  | nil => exact absurd rfl hrest
  | cons c rest ih =>
    cases rest with
    | nil =>
      have hstep : step (.word [c] token) c = some ([token], .between) := by simp [step]
      exact scanFrom?_last hstep
    | cons d rest =>
      have hstep : step (.word (c :: d :: rest) token) c = some ([], .word (d :: rest) token) := by
        simp [step]
      rw [List.cons_append, scanFrom?_within hstep]
      exact ih (List.cons_ne_nil d rest)

/-- A word is told by its first character. -/
theorem scan_word {c : Char} {rest : List Char} {token : JsonToken} (hrest : rest ≠ [])
    (h : stepBetween c = some ([], .word rest token)) (cs : List Char) :
    ScansTo (c :: rest) token cs := by
  have hstep : step .between c = some ([], .word rest token) := h
  exact (scanFrom?_within hstep).trans (scan_rest_of_word token hrest cs)

/-! ## Scanning numbers -/

/-- A number that may end does so before a character that can follow a value. -/
theorem scan_number_end {part : NumberPart} {token : JsonToken} (h : part.token? = some token)
    {cs : List Char} (hcs : Ends cs) :
    scanFrom? (.number part) cs = (scanFrom? .between cs).map (token :: ·) := by
  cases cs with
  | nil => simp [scanFrom?, finish?, h]
  | cons c cs =>
    have hnext : part.next? c = none := by
      rcases hcs c rfl with rfl | rfl | rfl <;> cases part <;> rfl
    have hmark : ∃ mark, stepBetween c = some ([mark], .between) := by
      rcases hcs c rfl with rfl | rfl | rfl <;> exact ⟨_, rfl⟩
    obtain ⟨mark, hmark⟩ := hmark
    have hstep : step (.number part) c = some ([token, mark], .between) := by
      simp only [step, hnext, h, hmark]
    have hstepBetween : step .between c = some ([mark], .between) := hmark
    rw [scanFrom?_last hstepBetween, scanFrom?, hstep, Option.map_map]
    rfl

theorem stepBetween_digitChar :
    ∀ d < 10, 0 < d → stepBetween (Nat.digitChar d) = some ([], .number (.digits false d)) := by
  decide

/-- Behind the digits of a positive number, the scanner holds that number. -/
theorem scan_digits {n : Nat} (hn : 0 < n) (cs : List Char) :
    scanFrom? .between (Nat.toDigits 10 n ++ cs) = scanFrom? (.number (.digits false n)) cs := by
  -- The last digit is taken off the number and put in front of what follows.
  induction n using Nat.strongRecOn generalizing cs with
  | ind n ih =>
    by_cases hlt : n < 10
    · rw [Nat.toDigits_of_lt_base hlt, List.singleton_append]
      exact scanFrom?_within (stepBetween_digitChar n hlt hn)
    · have hdigit := (Text.digitValue?_eq_some_iff (by decide : 10 ≤ 16)).mpr
        (⟨Nat.mod_lt n (by decide), .inl rfl⟩ :
          Text.IsDigit 10 (Nat.digitChar (n % 10)) (n % 10))
      have hstep : step (.number (.digits false (n / 10))) (Nat.digitChar (n % 10)) =
          some ([], .number (.digits false n)) := by
        simp only [step, NumberPart.next?, hdigit, NumberPart.digit?]
        rw [Nat.mul_comm, Nat.div_add_mod]
      rw [Nat.toDigits_of_base_le (by decide) (Nat.le_of_not_lt hlt), List.append_assoc,
        ih (n / 10) (by omega) (by omega), List.singleton_append]
      exact scanFrom?_within hstep

theorem scan_natural (n : Nat) {cs : List Char} (hcs : Ends cs) :
    ScansTo (toString n).toList (.natural n) cs := by
  rw [ScansTo, Nat.toString_eq_ofList_toDigits, String.toList_ofList]
  by_cases hn : n = 0
  · subst hn
    have hstep : step .between '0' = some ([], .number (.zero false)) := rfl
    exact (scanFrom?_within hstep).trans (scan_number_end rfl hcs)
  · rw [scan_digits (Nat.pos_of_ne_zero hn), scan_number_end rfl hcs]
    rfl

/-! ## Scanning strings -/

theorem isNoSurrogate (c : Char) : c.toNat < 0xD800 ∨ 0xDFFF < c.toNat := by
  rcases c.valid with h | h
  · exact .inl h
  · exact .inr h.1

/-- The code points of characters are code units of their text. -/
theorem textOfUnits_map_toNat (cs : List Char) : textOfUnits (cs.map Char.toNat) = some cs := by
  -- No character is a surrogate, so no two units are ever taken together.
  induction cs with
  | nil => rfl
  | cons c cs ih =>
    have hnot : ¬ (0xD800 ≤ c.toNat ∧ c.toNat ≤ 0xDFFF) := by
      have hc := isNoSurrogate c
      omega
    cases cs with
    | nil => rw [List.map_cons, List.map_nil, textOfUnits, if_neg hnot, Char.ofNat_toNat]
    | cons d cs =>
      have hpair : ¬ (0xD800 ≤ c.toNat ∧ c.toNat ≤ 0xDBFF ∧ 0xDC00 ≤ d.toNat ∧
          d.toNat ≤ 0xDFFF) := by
        omega
      rw [List.map_cons] at ih
      rw [List.map_cons, List.map_cons, textOfUnits, if_neg hpair, if_neg hnot, ih,
        Char.ofNat_toNat]
      rfl

/-- A control in the two digits of its code. -/
theorem scan_unicode_escape {n : Nat} (hn : n < 256) (units : List Nat) (cs : List Char) :
    scanFrom? (.string units) ('\\' :: 'u' :: '0' :: '0' :: Nat.digitChar (n / 16) ::
      Nat.digitChar (n % 16) :: cs) = scanFrom? (.string (n :: units)) cs := by
  have hhigh := (Text.digitValue?_digitChar (n / 16) (by omega)).1
  have hlow := (Text.digitValue?_digitChar (n % 16) (by omega)).1
  have hstart : step (.string units) '\\' = some ([], .escape units) := rfl
  have hunicode : step (.escape units) 'u' = some ([], .unicode units 4 0) := rfl
  have hfirst : step (.unicode units 4 0) '0' = some ([], .unicode units 3 0) := rfl
  have hsecond : step (.unicode units 3 0) '0' = some ([], .unicode units 2 0) := rfl
  have hthird : step (.unicode units 2 0) (Nat.digitChar (n / 16)) =
      some ([], .unicode units 1 (n / 16)) := by
    simp [step, hhigh]
  have hfourth : step (.unicode units 1 (n / 16)) (Nat.digitChar (n % 16)) =
      some ([], .string (n :: units)) := by
    simp only [step, hlow, Nat.le_refl, if_true]
    rw [Nat.mul_comm, Nat.div_add_mod]
  rw [scanFrom?_within hstart, scanFrom?_within hunicode, scanFrom?_within hfirst,
    scanFrom?_within hsecond, scanFrom?_within hthird, scanFrom?_within hfourth]

/-- A character behind a backslash. -/
theorem scan_short_escape {c meant : Char} (hc : c ≠ 'u') (h : shortEscape? c = some meant)
    (units : List Nat) (cs : List Char) :
    scanFrom? (.string units) ('\\' :: c :: cs) =
      scanFrom? (.string (meant.toNat :: units)) cs := by
  have hstart : step (.string units) '\\' = some ([], .escape units) := rfl
  have hescape : step (.escape units) c = some ([], .string (meant.toNat :: units)) := by
    rw [step, if_neg hc, h]
    rfl
  rw [scanFrom?_within hstart, scanFrom?_within hescape]

/-- What is written for a character of a string is read as the code point of it. -/
theorem scan_escapeChar (c : Char) (units : List Nat) (cs : List Char) :
    scanFrom? (.string units) (Json.escapeChar c ++ cs) =
      scanFrom? (.string (c.toNat :: units)) cs := by
  -- The cases of the writer: quoted, short escape, escape by number, and as it is.
  by_cases hmark : c = '"' ∨ c = '\\'
  · rw [Json.escapeChar, if_pos hmark]
    rcases hmark with rfl | rfl <;> exact scan_short_escape (by decide) rfl units cs
  by_cases hshort : c = '\x08' ∨ c = '\x0c' ∨ c = '\n' ∨ c = '\r' ∨ c = '\t'
  · rcases hshort with rfl | rfl | rfl | rfl | rfl <;>
      exact scan_short_escape (by decide) rfl units cs
  simp only [not_or] at hmark hshort
  obtain ⟨hbackspace, hfeed, hline, hreturn, htab⟩ := hshort
  by_cases hcontrol : c < ' '
  · have hcode : c.toNat < 32 := hcontrol
    have hescape : Json.escapeChar c = ['\\', 'u', '0', '0', Nat.digitChar (c.toNat / 16),
        Nat.digitChar (c.toNat % 16)] := by
      simp [Json.escapeChar, hmark, hbackspace, hfeed, hline, hreturn, htab, hcontrol]
    rw [hescape]
    exact scan_unicode_escape (by omega) units cs
  · have hescape : Json.escapeChar c = [c] := by
      simp [Json.escapeChar, hmark, hbackspace, hfeed, hline, hreturn, htab, hcontrol]
    have hstep : step (.string units) c = some ([], .string (c.toNat :: units)) := by
      rw [step, if_neg hmark.1, if_neg hmark.2, if_neg hcontrol]
    rw [hescape]
    exact scanFrom?_within hstep

theorem scan_escaped (text : List Char) (units : List Nat) (cs : List Char) :
    scanFrom? (.string units) (text.flatMap Json.escapeChar ++ cs) =
      scanFrom? (.string ((text.map Char.toNat).reverse ++ units)) cs := by
  induction text generalizing units with
  | nil => rfl
  | cons c text ih =>
    rw [List.flatMap_cons, List.append_assoc, scan_escapeChar, ih]
    simp

theorem scan_string (s : String) (cs : List Char) :
    ScansTo (Json.renderString s).toList (.string (some s)) cs := by
  have hopen : step .between '"' = some ([], .string []) := rfl
  have hclose : step (.string ((s.toList.map Char.toNat).reverse)) '"' =
      some ([string (some s)], .between) := by
    rw [step, if_pos rfl, List.reverse_reverse, textOfUnits_map_toNat, Option.map_some,
      String.ofList_toList]
  rw [ScansTo, Json.renderString, String.toList_ofList, List.cons_append, List.cons_append,
    List.append_assoc, scanFrom?_within hopen, scan_escaped, List.append_nil]
  exact scanFrom?_last hclose

end JsonToken

namespace JsonReader

open JsonToken (Ends ScansTo)

/-! ## Reading tokens -/

/-- Reads the tokens of a text. -/
def readText? (reader : JsonReader) (cs : List Char) : Option JsonReader :=
  (JsonToken.scanFrom? .between cs).bind reader.run?

/-- A token is read before what follows it. -/
theorem readText?_token {text : List Char} {token : JsonToken} {cs : List Char}
    (h : ScansTo text token cs) (reader : JsonReader) :
    reader.readText? (text ++ cs) = (reader.step? token).bind (·.readText? cs) := by
  rw [readText?, h]
  -- The scanner goes through the whole text first, so either of the two may be the one to fail.
  cases hstep : reader.step? token with
  | none =>
    cases JsonToken.scanFrom? .between cs with
    | none => rfl
    | some tokens => simp [run?, hstep]
  | some next =>
    cases hcs : JsonToken.scanFrom? .between cs with
    | none => simp [readText?, hcs]
    | some tokens => simp [readText?, hcs, run?, hstep]

theorem readText?_mark {c : Char} {token : JsonToken}
    (h : JsonToken.stepBetween c = some ([token], .between)) (reader : JsonReader)
    (cs : List Char) :
    reader.readText? (c :: cs) = (reader.step? token).bind (·.readText? cs) :=
  readText?_token (JsonToken.scan_mark h cs) reader

/-- Places where a value may stand. -/
def ExpectsValue (expected : JsonExpected) : Prop := expected = .value ∨ expected = .itemOrEnd

theorem step?_of_expectsValue {expected : JsonExpected} (h : ExpectsValue expected)
    {token : JsonToken} (htoken : token ≠ .closeBracket) (frames : List JsonFrame) :
    step? (.reading frames expected) token = startValue? frames token := by
  rcases h with rfl | rfl
  · rfl
  · simp [step?, htoken]

/-- A reader in front of the text of the value gets it and goes on behind it. -/
def ReadsBack (j : Json) : Prop :=
  ∀ frames expected cs, ExpectsValue expected → Ends cs →
    (reading frames expected).readText? (j.render.toList ++ cs) =
      (supply? j frames).bind (·.readText? cs)

theorem readsBack_of_token {j : Json} {token : JsonToken} (hbracket : token ≠ .closeBracket)
    (hvalue : ∀ frames, startValue? frames token = supply? j frames)
    (hscan : ∀ cs, Ends cs → ScansTo j.render.toList token cs) : ReadsBack j := by
  intro frames expected cs hexpected hcs
  rw [readText?_token (hscan cs hcs), step?_of_expectsValue hexpected hbracket, hvalue]

theorem readsBack_null : ReadsBack .null := by
  have hbracket : JsonToken.null ≠ .closeBracket := by decide
  refine readsBack_of_token hbracket (fun _ => rfl) fun cs _ => ?_
  exact JsonToken.scan_word (List.cons_ne_nil _ _) rfl cs

theorem readsBack_bool (value : Bool) : ReadsBack (.bool value) := by
  have hbracket : JsonToken.bool value ≠ .closeBracket := nofun
  refine readsBack_of_token hbracket (fun _ => rfl) fun cs _ => ?_
  cases value <;> exact JsonToken.scan_word (List.cons_ne_nil _ _) rfl cs

theorem readsBack_natural (n : Nat) : ReadsBack (.natural n) := by
  have hbracket : JsonToken.natural n ≠ .closeBracket := nofun
  exact readsBack_of_token hbracket (fun _ => rfl) fun _ hcs => JsonToken.scan_natural n hcs

theorem readsBack_string (s : String) : ReadsBack (.ofString s) := by
  have hbracket : JsonToken.string (some s) ≠ .closeBracket := nofun
  exact readsBack_of_token hbracket (fun _ => rfl) fun cs _ => JsonToken.scan_string s cs

/-! ## Reading arrays and objects -/

theorem toList_intercalate_cons {text : String} {texts : List String} (h : texts ≠ []) :
    (",".intercalate (text :: texts)).toList =
      text.toList ++ ',' :: (",".intercalate texts).toList := by
  rw [String.intercalate_cons_of_ne_nil h, String.toList_append, String.toList_append,
    List.append_assoc]
  rfl

/-- Texts with commas between them are read one by one into the innermost array or object. What
stands for `xs` is `frame`, with the latest first, and `again` is expected behind a comma. -/
theorem readText?_joined {α : Type} {text : α → String} {frame : List α → JsonFrame}
    {Expects : JsonExpected → Prop} {again : JsonExpected} {frames : List JsonFrame} {xs : List α}
    (hne : xs ≠ [])
    (hread : ∀ x ∈ xs, ∀ done expected cs, Expects expected → Ends cs →
      (reading (frame done :: frames) expected).readText? ((text x).toList ++ cs) =
        (reading (frame (x :: done) :: frames) .commaOrEnd).readText? cs)
    (hcomma : ∀ done, step? (reading (frame done :: frames) .commaOrEnd) .comma =
      some (reading (frame done :: frames) again))
    (hagain : Expects again) (done : List α) {expected : JsonExpected}
    (hexpected : Expects expected) {cs : List Char} (hcs : Ends cs) :
    (reading (frame done :: frames) expected).readText?
        ((",".intercalate (xs.map text)).toList ++ cs) =
      (reading (frame (xs.reverse ++ done) :: frames) .commaOrEnd).readText? cs := by
  -- What has been read grows with every part, and after the first one a comma has been read.
  induction xs generalizing done expected with
  | nil => exact absurd rfl hne
  | cons x xs ih =>
    obtain ⟨hx, hxs⟩ := List.forall_mem_cons.mp hread
    cases xs with
    | nil =>
      rw [List.map_singleton, String.intercalate_singleton, hx _ _ _ hexpected hcs]
      rfl
    | cons y ys =>
      have hends : Ends (',' :: ((",".intercalate ((y :: ys).map text)).toList ++ cs)) :=
        JsonToken.ends_cons (by decide)
      rw [List.map_cons, toList_intercalate_cons (by simp), List.append_assoc, List.cons_append,
        hx _ _ _ hexpected hends, readText?_mark rfl, hcomma, Option.bind_some,
        ih (List.cons_ne_nil y ys) hxs (x :: done) hagain]
      simp

theorem renderItems_eq_map (items : List Json) :
    Json.renderItems items = items.map Json.render := by
  induction items with
  | nil => rfl
  | cons item items ih => rw [Json.renderItems, ih, List.map_cons]

/-- A key with its value, as a member is written. -/
def memberText (m : JsonMember) : String :=
  Json.renderString (m.key.getD "") ++ ":" ++ m.value.render

theorem renderMembers_eq_map (members : List JsonMember) :
    Json.renderMembers members = members.map memberText := by
  induction members with
  | nil => rfl
  | cons m members ih =>
    obtain ⟨key, value⟩ := m
    rw [Json.renderMembers, ih, List.map_cons]
    rfl

theorem readsBack_array {items : List Json} (h : ∀ item ∈ items, ReadsBack item) :
    ReadsBack (.array items) := by
  intro frames expected cs hexpected hcs
  have hopen : step? (.reading frames expected) .openBracket =
      some (reading (.array [] :: frames) .itemOrEnd) := by
    rw [step?_of_expectsValue hexpected (by decide)]
    rfl
  have hitem : ∀ item ∈ items, ∀ done expected cs, ExpectsValue expected → Ends cs →
      (reading (.array done :: frames) expected).readText? (item.render.toList ++ cs) =
        (reading (.array (item :: done) :: frames) .commaOrEnd).readText? cs :=
    fun item hmem done expected cs hexpected hcs => h item hmem _ expected cs hexpected hcs
  have htext : (Json.array items).render.toList ++ cs =
      '[' :: ((",".intercalate (items.map Json.render)).toList ++ ']' :: cs) := by
    rw [Json.render, renderItems_eq_map]
    simp
  rw [htext, readText?_mark rfl, hopen, Option.bind_some]
  by_cases hne : items = []
  · subst hne
    show (reading (.array [] :: frames) .itemOrEnd).readText? (']' :: cs) = _
    rw [readText?_mark rfl]
    rfl
  · have hends : Ends (']' :: cs) := JsonToken.ends_cons (by decide)
    rw [readText?_joined hne hitem (fun _ => rfl) (.inl rfl) [] (.inr rfl) hends,
      readText?_mark rfl]
    simp [step?, close?]

/-- A member is read into the innermost object. -/
theorem readText?_member {m : String × Json} (hvalue : ReadsBack m.2) (done : List JsonMember)
    (frames : List JsonFrame) {expected : JsonExpected}
    (hexpected : expected = .key ∨ expected = .keyOrEnd) {cs : List Char} (hcs : Ends cs) :
    (reading (.object done :: frames) expected).readText?
        ((memberText (.ofPair m)).toList ++ cs) =
      (reading (.object (.ofPair m :: done) :: frames) .commaOrEnd).readText? cs := by
  have hkey : step? (reading (.object done :: frames) expected) (.string (some m.1)) =
      some (reading (.member done (some m.1) :: frames) .colon) := by
    rcases hexpected with rfl | rfl <;> rfl
  have htext : (memberText (.ofPair m)).toList ++ cs =
      (Json.renderString m.1).toList ++ ':' :: (m.2.render.toList ++ cs) := by
    simp [memberText, JsonMember.ofPair]
  rw [htext, readText?_token (JsonToken.scan_string m.1 _), hkey, Option.bind_some,
    readText?_mark rfl]
  exact hvalue _ _ _ (.inl rfl) hcs

theorem readsBack_object {members : List (String × Json)} (h : ∀ m ∈ members, ReadsBack m.2) :
    ReadsBack (.ofMembers members) := by
  intro frames expected cs hexpected hcs
  have hopen : step? (.reading frames expected) .openBrace =
      some (reading (.object [] :: frames) .keyOrEnd) := by
    rw [step?_of_expectsValue hexpected (by decide)]
    rfl
  have hmember : ∀ m ∈ members.map JsonMember.ofPair, ∀ done expected cs,
      (expected = .key ∨ expected = .keyOrEnd) → Ends cs →
      (reading (.object done :: frames) expected).readText? ((memberText m).toList ++ cs) =
        (reading (.object (m :: done) :: frames) .commaOrEnd).readText? cs := by
    intro m hm done expected cs hexpected hcs
    obtain ⟨pair, hpair, rfl⟩ := List.mem_map.mp hm
    exact readText?_member (h pair hpair) done frames hexpected hcs
  have htext : (Json.ofMembers members).render.toList ++ cs =
      '{' :: ((",".intercalate ((members.map JsonMember.ofPair).map memberText)).toList ++
        '}' :: cs) := by
    rw [Json.ofMembers_eq, Json.render, renderMembers_eq_map]
    simp
  rw [htext, readText?_mark rfl, hopen, Option.bind_some]
  by_cases hne : members = []
  · subst hne
    show (reading (.object [] :: frames) .keyOrEnd).readText? ('}' :: cs) = _
    rw [readText?_mark rfl]
    rfl
  · have hends : Ends ('}' :: cs) := JsonToken.ends_cons (by decide)
    rw [readText?_joined (by simpa using hne) hmember (fun _ => rfl) (.inl rfl) [] (.inr rfl)
      hends, readText?_mark rfl]
    simp [step?, close?, Json.ofMembers_eq]

end JsonReader

/-! ## Reading values -/

/-- What is written for a plain value is read back from it, wherever a value may stand. -/
theorem Json.IsPlain.readsBack {j : Json} (h : j.IsPlain) : JsonReader.ReadsBack j := by
  induction h with
  | null => exact JsonReader.readsBack_null
  | bool value => exact JsonReader.readsBack_bool value
  | natural n => exact JsonReader.readsBack_natural n
  | string s => exact JsonReader.readsBack_string s
  | array _ ih => exact JsonReader.readsBack_array ih
  | object _ ih => exact JsonReader.readsBack_object ih

/-- The text of a plain value is a JSON text of that value. -/
theorem Json.parse?_render {j : Json} (h : j.IsPlain) : Json.parse? j.render = some j := by
  have hread := h.readsBack [] .value [] (.inl rfl) JsonToken.ends_nil
  have hend : (JsonReader.finished j).readText? [] = some (.finished j) := rfl
  rw [List.append_nil, JsonReader.supply?, Option.bind_some, hend] at hread
  rw [Json.parse?, JsonToken.scan?, ← Option.bind_assoc]
  rw [JsonReader.readText?] at hread
  rw [hread]
  rfl

end TextTemplate
