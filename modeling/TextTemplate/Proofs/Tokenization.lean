import Mathlib.Data.List.Chain
import TextTemplate.Proofs.Offsets
import TextTemplate.Proofs.SymbolReading

/-!
# Tokenization

A text can be cut in one way only into marks and runs of plain text such that no run hides a mark
or touches another run, and this is how it is cut into tokens.

* `Token.Cuts` says of tokens that they are such a cut of characters, one token after the other, and
  `Token.cuts_iff` that `Token.ofChars` makes the only one.
* `Tokenizes` says the same of a text and tokens with ranges of octets, by what holds of each range,
  of two ranges side by side and of all of them.
* `tokenizes_iff`: the tokens of a text with their ranges are the only ones that tokenize it.
-/

namespace TextTemplate

namespace Token

/-! ## Cuts -/

/-- How the tokens other than plain text are written. -/
def markSpellings : List (List Char) :=
  [['('], [')'], [','], ['}'], ['$', '{'], ['\\', '$'], ['\\', ','], ['\\', '\\']]

/-- Whether characters begin with a token other than plain text. -/
def BeginsWithMark (cs : List Char) : Prop := ∃ mark ∈ markSpellings, mark <+: cs

/-- Whether a token is plain text. -/
def isText : Token → Bool
  | text _ => true
  | _ => false

/-- A token can stand in front of characters: it is spelled as a mark, or it is plain text in which
no mark begins. -/
structure StandsBefore (t : Token) (cs : List Char) : Prop where
  nonempty : t.source ≠ []
  spelled : t.isText = false → t.source ∈ markSpellings
  plain : t.isText = true → ∀ ds, ds ≠ [] → ds <:+ t.source → ¬ BeginsWithMark (ds ++ cs)

/-- Characters are cut into tokens, and plain text is not followed by plain text. -/
inductive Cuts : List Char → List Token → Prop where
  | nil : Cuts [] []
  | cons {t cs ts} (stands : t.StandsBefore cs)
      (separated : ∀ u ∈ ts.head?, t.isText = false ∨ u.isText = false) (rest : Cuts cs ts) :
      Cuts (t.source ++ cs) (t :: ts)

theorem beginsWithMark_cons (c : Char) (cs : List Char) :
    BeginsWithMark (c :: cs) ↔
      (∃ t, mark? c = some t) ∨ (c = '$' ∧ cs.head? = some '{') ∨
        (c = '\\' ∧ ∃ d ∈ cs.head?, isQuotable d = true) := by
  have hmark : (∃ t, mark? c = some t) ↔ c = '(' ∨ c = ')' ∨ c = ',' ∨ c = '}' := by
    constructor
    · rintro ⟨t, ht⟩
      unfold mark? at ht
      split at ht <;> simp_all
    · rintro (rfl | rfl | rfl | rfl) <;> exact ⟨_, rfl⟩
  rw [hmark]
  cases cs with
  | nil =>
    simp only [BeginsWithMark, markSpellings, List.mem_cons, List.not_mem_nil, or_false,
      exists_eq_or_imp, exists_eq_left, List.cons_prefix_cons, and_true, List.prefix_nil,
      List.head?_nil]
    grind
  | cons d ds =>
    have hpair : (∃ x ∈ (d :: ds).head?, isQuotable x = true) ↔ d = '$' ∨ d = ',' ∨ d = '\\' := by
      simp [isQuotable, or_assoc]
    simp only [BeginsWithMark, markSpellings, List.mem_cons, List.not_mem_nil, or_false,
      exists_eq_or_imp, exists_eq_left, List.cons_prefix_cons, List.nil_prefix, and_true,
      List.head?_cons, Option.some.injEq]
    grind

/-- A character that begins no mark joins the run after it. -/
theorem ofChars_of_not_beginsWithMark {c : Char} {cs : List Char}
    (h : ¬ BeginsWithMark (c :: cs)) : ofChars (c :: cs) = consPlain c (ofChars cs) := by
  rw [beginsWithMark_cons, not_or, not_or] at h
  rcases h with ⟨hmark, hopening, hpair⟩
  have hnone : mark? c = none := by
    cases hc : mark? c with
    | none => rfl
    | some t => exact absurd ⟨t, hc⟩ hmark
  have hunpaired : c = '\\' → ∀ d ∈ cs.head?, isQuotable d = false := by
    intro hc d hd
    cases hq : isQuotable d with
    | false => rfl
    | true => exact absurd ⟨hc, d, hd, hq⟩ hpair
  have hunopened : c = '$' → cs.head? ≠ some '{' := fun hc hd => hopening ⟨hc, hd⟩
  rw [Grammar.ofChars_single hunpaired hunopened, hnone]

/-- A mark at the start of a text is its first token. -/
theorem ofChars_mark {t : Token} (hmark : t.isText = false) (h : t.source ∈ markSpellings)
    (cs : List Char) : ofChars (t.source ++ cs) = t :: ofChars cs := by
  cases t with
  | text run => cases hmark
  | escaped c =>
    have hc : isQuotable c = true := by
      simpa [markSpellings, source, isQuotable, or_assoc] using h
    simp only [source, List.cons_append, List.nil_append, ofChars, if_pos hc]
  | openReference | leftParen | rightParen | comma | rightBrace => rfl

/-- Plain text in front of a mark or of the end is one token. -/
theorem ofChars_run {run cs : List Char} (hne : run ≠ [])
    (hplain : ∀ ds, ds ≠ [] → ds <:+ run → ¬ BeginsWithMark (ds ++ cs))
    (hseparated : ∀ t ∈ (ofChars cs).head?, t.isText = false) :
    ofChars (run ++ cs) = text run :: ofChars cs := by
  induction run with
  | nil => exact absurd rfl hne
  | cons c run ih =>
    have hfirst : ¬ BeginsWithMark (c :: (run ++ cs)) :=
      hplain (c :: run) (List.cons_ne_nil c run) List.suffix_rfl
    rw [List.cons_append, ofChars_of_not_beginsWithMark hfirst]
    by_cases hrun : run = []
    · subst hrun
      cases hts : ofChars cs with
      | nil => simp [consPlain, hts]
      | cons t ts =>
        rw [hts] at hseparated
        have ht : t.isText = false := hseparated t rfl
        cases t with
        | text run => cases ht
        | _ => simp [consPlain, hts]
    · have hrest : ∀ ds, ds ≠ [] → ds <:+ run → ¬ BeginsWithMark (ds ++ cs) :=
        fun ds hds hsuffix => hplain ds hds (hsuffix.trans (List.suffix_cons c run))
      rw [ih hrun hrest]
      rfl

theorem Cuts.ofChars_eq {cs : List Char} {ts : List Token} (h : Cuts cs ts) : ofChars cs = ts := by
  induction h with
  | nil => rfl
  | @cons t cs ts hstands hseparated _ ih =>
    cases ht : t.isText with
    | false => rw [ofChars_mark ht (hstands.spelled ht), ih]
    | true =>
      cases t with
      | text run =>
        have hnext : ∀ u ∈ (ofChars cs).head?, u.isText = false := by
          intro u hu
          rw [ih] at hu
          exact (hseparated u hu).resolve_left (by simp [isText])
        have hrun : ofChars ((text run).source ++ cs) = text run :: ofChars cs :=
          ofChars_run hstands.nonempty (hstands.plain rfl) hnext
        rw [hrun, ih]
      | _ => cases ht

theorem Cuts.mark {t : Token} {cs : List Char} {ts : List Token} (ht : t.isText = false)
    (hspelled : t.source ∈ markSpellings) (h : Cuts cs ts) : Cuts (t.source ++ cs) (t :: ts) := by
  have hne : t.source ≠ [] := by
    intro hnil
    rw [hnil] at hspelled
    exact absurd hspelled (by decide)
  have hstands : t.StandsBefore cs := by
    refine ⟨hne, fun _ => hspelled, ?_⟩
    intro ht'
    rw [ht] at ht'
    cases ht'
  exact .cons hstands (fun _ _ => .inl ht) h

/-- A character that begins no mark can be put in front of a cut. -/
theorem Cuts.consPlain {c : Char} {cs : List Char} {ts : List Token}
    (hc : ¬ BeginsWithMark (c :: cs)) (h : Cuts cs ts) : Cuts (c :: cs) (consPlain c ts) := by
  have halone : (text [c]).StandsBefore cs := by
    refine ⟨List.cons_ne_nil c [], nofun, ?_⟩
    rintro - ds hne hsuffix
    rcases List.suffix_cons_iff.mp hsuffix with rfl | hsuffix
    · exact hc
    · exact absurd (List.suffix_nil.mp hsuffix) hne
  cases h with
  | nil => exact .cons halone nofun .nil
  | @cons t cs ts hstands hseparated hrest =>
    cases t with
    | text run =>
      have hlonger : (text (c :: run)).StandsBefore cs := by
        refine ⟨List.cons_ne_nil c run, nofun, ?_⟩
        rintro - ds hne hsuffix
        rcases List.suffix_cons_iff.mp hsuffix with rfl | hsuffix
        · exact hc
        · exact hstands.plain rfl ds hne hsuffix
      exact .cons hlonger (fun u hu => .inr ((hseparated u hu).resolve_left (by simp [isText])))
        hrest
    | _ =>
      refine .cons halone ?_ (.cons hstands hseparated hrest)
      rintro u ⟨⟩
      exact .inr rfl

theorem cuts_ofChars (cs : List Char) : Cuts cs (ofChars cs) := by
  fun_induction ofChars cs with
  | case1 => exact .nil
  | case2 cs ih => exact .mark (t := openReference) rfl (by decide) ih
  | case3 c cs hc ih =>
    refine .mark (t := escaped c) rfl ?_ ih
    simpa [markSpellings, source, isQuotable, or_assoc] using hc
  | case4 c cs hc ih =>
    refine Cuts.consPlain ?_ ih
    simp [beginsWithMark_cons, mark?, hc]
  | case5 c cs h₁ h₂ t ht ih =>
    have hmark : t.isText = false ∧ t.source ∈ markSpellings := by
      unfold mark? at ht
      split at ht <;> cases ht <;> decide
    have hcut := Cuts.mark hmark.1 hmark.2 ih
    rwa [source_of_mark? ht] at hcut
  | case6 c cs h₁ h₂ hnone ih =>
    refine Cuts.consPlain ?_ ih
    rw [beginsWithMark_cons]
    rintro (⟨t, ht⟩ | ⟨rfl, hd⟩ | ⟨rfl, d, hd, -⟩)
    · rw [hnone] at ht
      cases ht
    · obtain ⟨ds, rfl⟩ := List.head?_eq_some_iff.mp hd
      exact h₁ ds rfl rfl
    · obtain ⟨ds, rfl⟩ := List.head?_eq_some_iff.mp hd
      exact h₂ d ds rfl rfl

/-- Every text has one cut, its tokens. -/
theorem cuts_iff {cs : List Char} {ts : List Token} : Cuts cs ts ↔ ts = ofChars cs := by
  constructor
  · intro h
    exact h.ofChars_eq.symm
  · rintro rfl
    exact cuts_ofChars cs

/-- A dollar sign is plain text in front of an opening, and so is a backslash at the end. -/
example : ofChars ['$', '$', '{', 'a', '\\'] = [text ['$'], openReference, text ['a', '\\']] := rfl

end Token

/-! ## Ranges -/

/-- A token with the range of octets that it stands for. -/
structure Span where
  start : Nat
  stop : Nat
  token : Token

/-- A token with its range. -/
def Lexeme.span (l : Lexeme) : Span := ⟨l.start, l.stop, l.token⟩

/-- From `start` to `stop`, `text` reads `part`. -/
def IsSlice (text : String) (start stop : Nat) (part : String) : Prop :=
  ∃ before after, text = before ++ part ++ after ∧ before.utf8ByteSize = start ∧
    (before ++ part).utf8ByteSize = stop

section Slices

variable {text part : String} {start stop : Nat}

theorem IsSlice.isValid_start (h : IsSlice text start stop part) :
    (⟨start⟩ : String.Pos.Raw).IsValid text := by
  rcases h with ⟨before, after, rfl, rfl, -⟩
  rw [String.Pos.Raw.isValid_iff_exists_append]
  exact ⟨before, part ++ after, String.append_assoc, rfl⟩

theorem IsSlice.isValid_stop (h : IsSlice text start stop part) :
    (⟨stop⟩ : String.Pos.Raw).IsValid text := by
  rcases h with ⟨before, after, rfl, -, rfl⟩
  rw [String.Pos.Raw.isValid_iff_exists_append]
  exact ⟨before ++ part, after, rfl, rfl⟩

end Slices

/-- A token stands for its range of a text. -/
structure Span.Fits (text : String) (s : Span) : Prop where
  nonempty : s.start < s.stop
  startsBetweenCharacters : (⟨s.start⟩ : String.Pos.Raw).IsValid text
  stopsBetweenCharacters : (⟨s.stop⟩ : String.Pos.Raw).IsValid text
  slice : IsSlice text s.start s.stop (String.ofList s.token.source)
  spelled : s.token.isText = false → s.token.source ∈ Token.markSpellings
  /-- No mark is written from an offset inside of plain text on. -/
  plain : s.token.isText = true → ∀ offset, s.start ≤ offset → offset < s.stop →
    ∀ mark ∈ Token.markSpellings, ¬ WrittenAt text offset (String.ofList mark)

/-- Ranges follow each other from an offset to the end. -/
def Contiguous (stop : Nat) : Nat → List Span → Prop
  | n, [] => n = stop
  | n, s :: ss => s.start = n ∧ Contiguous stop s.stop ss

/-- Tokens with their ranges are what a text consists of from an offset on. -/
structure TokenizesFrom (text : String) (n : Nat) (ss : List Span) : Prop where
  contiguous : Contiguous text.utf8ByteSize n ss
  fits : ∀ s ∈ ss, s.Fits text
  /-- Plain text is not followed by plain text. -/
  separated : ss.IsChain fun s s' => s.token.isText = false ∨ s'.token.isText = false

/-- Tokens with their ranges are what a text consists of. -/
def Tokenizes (text : String) (ss : List Span) : Prop := TokenizesFrom text 0 ss

theorem tokenizesFrom_nil {text : String} {n : Nat} :
    TokenizesFrom text n [] ↔ n = text.utf8ByteSize :=
  ⟨fun h => h.contiguous, fun h => ⟨h, nofun, .nil⟩⟩

theorem tokenizesFrom_cons {text : String} {n : Nat} {s : Span} {ss : List Span} :
    TokenizesFrom text n (s :: ss) ↔
      s.start = n ∧ s.Fits text ∧
        (∀ s' ∈ ss.head?, s.token.isText = false ∨ s'.token.isText = false) ∧
        TokenizesFrom text s.stop ss := by
  constructor
  · rintro ⟨⟨hstart, hrest⟩, hfits, hseparated⟩
    obtain ⟨hs, hss⟩ := List.forall_mem_cons.mp hfits
    obtain ⟨hnext, hchain⟩ := List.isChain_cons.mp hseparated
    exact ⟨hstart, hs, hnext, hrest, hss, hchain⟩
  · rintro ⟨hstart, hs, hnext, hrest, hss, hchain⟩
    exact ⟨⟨hstart, hrest⟩, List.forall_mem_cons.mpr ⟨hs, hss⟩,
      List.isChain_cons.mpr ⟨hnext, hchain⟩⟩

section After

/- A text is given by what stands before an offset, and the characters after it. -/
variable {before : String} {cs : List Char}

theorem isSlice_after {part : List Char} {stop : Nat} :
    IsSlice (before ++ String.ofList cs) before.utf8ByteSize stop (String.ofList part) ↔
      part <+: cs ∧ stop = before.utf8ByteSize + utf8Width part := by
  have hprefix : WrittenAt (before ++ String.ofList cs) before.utf8ByteSize (String.ofList part) ↔
      part <+: cs := by
    rw [WrittenAt.iff_prefix, String.toList_ofList, String.toList_ofList]
  rw [← hprefix]
  constructor
  · rintro ⟨before', after, htext, hstart, rfl⟩
    refine ⟨⟨before', after, htext, hstart⟩, ?_⟩
    rw [String.utf8ByteSize_append, hstart, utf8ByteSize_ofList]
  · rintro ⟨⟨before', after, htext, hstart⟩, rfl⟩
    refine ⟨before', after, htext, hstart, ?_⟩
    rw [String.utf8ByteSize_append, hstart, utf8ByteSize_ofList]

/-- No mark starts inside of a run if and only if none starts with a character of it. -/
theorem plain_after {run : List Char} :
    (∀ offset, before.utf8ByteSize ≤ offset → offset < before.utf8ByteSize + utf8Width run →
      ∀ mark ∈ Token.markSpellings,
        ¬ WrittenAt (before ++ String.ofList (run ++ cs)) offset (String.ofList mark)) ↔
      ∀ ds, ds ≠ [] → ds <:+ run → ¬ Token.BeginsWithMark (ds ++ cs) := by
  constructor
  · rintro h ds hne ⟨es, rfl⟩ ⟨mark, hmark, hbegins⟩
    have hpos : utf8Width ds ≠ 0 := fun hzero => hne (utf8Width_eq_zero hzero)
    refine h (before.utf8ByteSize + utf8Width es) (Nat.le_add_right _ _) ?_ mark hmark ?_
    · rw [utf8Width_append]
      omega
    · have hwritten : WrittenAt (before ++ String.ofList es ++ String.ofList (ds ++ cs))
          (before ++ String.ofList es).utf8ByteSize (String.ofList mark) := by
        rw [WrittenAt.iff_prefix, String.toList_ofList, String.toList_ofList]
        exact hbegins
      rwa [String.utf8ByteSize_append, utf8ByteSize_ofList, String.append_assoc,
        ← String.ofList_append, ← List.append_assoc] at hwritten
  · rintro h offset hle hlt mark hmark hwritten
    obtain ⟨es, ds, hrest, rfl, hbegins⟩ := hwritten.exists_after hle
    rw [String.toList_ofList] at hrest hbegins
    rcases List.append_eq_append_iff.mp hrest with ⟨fs, rfl, -⟩ | ⟨fs, rfl, rfl⟩
    · rw [utf8Width_append] at hlt
      omega
    · refine h fs ?_ (List.suffix_append es fs) ⟨mark, hmark, hbegins⟩
      rintro rfl
      rw [List.append_nil] at hlt
      omega

/-- What fits after an offset is a token that the characters there begin with. -/
theorem fits_after {t : Token} {stop : Nat} :
    Span.Fits (before ++ String.ofList cs) ⟨before.utf8ByteSize, stop, t⟩ ↔
      ∃ rest, cs = t.source ++ rest ∧ stop = before.utf8ByteSize + t.width ∧
        t.StandsBefore rest := by
  constructor
  · rintro ⟨hnonempty, -, -, hslice, hspelled, hplain⟩
    dsimp only at hnonempty hslice hspelled hplain
    obtain ⟨⟨rest, rfl⟩, rfl⟩ := isSlice_after.mp hslice
    refine ⟨rest, rfl, rfl, ?_, hspelled, ?_⟩
    · intro hnil
      simp [hnil, utf8Width] at hnonempty
    · intro ht
      exact plain_after.mp (hplain ht)
  · rintro ⟨rest, rfl, rfl, hne, hspelled, hplain⟩
    have hpos : t.width ≠ 0 := fun hzero => hne (utf8Width_eq_zero hzero)
    have hslice : IsSlice (before ++ String.ofList (t.source ++ rest)) before.utf8ByteSize
        (before.utf8ByteSize + t.width) (String.ofList t.source) :=
      isSlice_after.mpr ⟨List.prefix_append _ _, rfl⟩
    refine ⟨?_, hslice.isValid_start, hslice.isValid_stop, hslice, hspelled, ?_⟩
    · show before.utf8ByteSize < before.utf8ByteSize + t.width
      omega
    · intro ht
      exact plain_after.mpr (hplain ht)

end After

theorem forall_mem_head?_spans {p : Token → Prop} (n : Nat) (ts : List Token) :
    (∀ s ∈ ((Lexeme.place n ts).map Lexeme.span).head?, p s.token) ↔ ∀ u ∈ ts.head?, p u := by
  cases ts <;> simp [Lexeme.place, Lexeme.span]

theorem tokenizesFrom_of_cuts {cs : List Char} {ts : List Token} (h : Token.Cuts cs ts)
    (before : String) :
    TokenizesFrom (before ++ String.ofList cs) before.utf8ByteSize
      ((Lexeme.place before.utf8ByteSize ts).map Lexeme.span) := by
  induction h generalizing before with
  | nil => simp [Lexeme.place, tokenizesFrom_nil]
  | @cons t cs ts hstands hseparated _ ih =>
    rw [Lexeme.place, List.map_cons, tokenizesFrom_cons]
    refine ⟨rfl, fits_after.mpr ⟨cs, rfl, rfl, hstands⟩, ?_, ?_⟩
    · exact (forall_mem_head?_spans _ ts).mpr hseparated
    · have hrest := ih (before ++ String.ofList t.source)
      rw [String.utf8ByteSize_append, utf8ByteSize_ofList, String.append_assoc,
        ← String.ofList_append] at hrest
      exact hrest

theorem exists_cuts_of_tokenizesFrom (before : String) {cs : List Char} {ss : List Span}
    (h : TokenizesFrom (before ++ String.ofList cs) before.utf8ByteSize ss) :
    ∃ ts, Token.Cuts cs ts ∧ ss = (Lexeme.place before.utf8ByteSize ts).map Lexeme.span := by
  induction ss generalizing before cs with
  | nil =>
    rw [tokenizesFrom_nil, String.utf8ByteSize_append, utf8ByteSize_ofList] at h
    obtain rfl : cs = [] := utf8Width_eq_zero (by omega)
    exact ⟨[], .nil, rfl⟩
  | cons s ss ih =>
    rcases s with ⟨start, stop, t⟩
    obtain ⟨rfl, hfits, hseparated, hrest⟩ := tokenizesFrom_cons.mp h
    obtain ⟨rest, rfl, rfl, hstands⟩ := fits_after.mp hfits
    have hsize : before.utf8ByteSize + t.width =
        (before ++ String.ofList t.source).utf8ByteSize := by
      rw [String.utf8ByteSize_append, utf8ByteSize_ofList, Token.width]
    dsimp only at hrest
    rw [hsize, String.ofList_append, ← String.append_assoc] at hrest
    obtain ⟨ts, hcuts, rfl⟩ := ih _ hrest
    refine ⟨t :: ts, .cons hstands ((forall_mem_head?_spans _ ts).mp hseparated) hcuts, ?_⟩
    rw [← hsize]
    rfl

/-- The tokens of a text with their ranges are the only ones that it consists of. -/
theorem tokenizes_iff (text : String) (ss : List Span) :
    Tokenizes text ss ↔ ss = (Token.scan text).map Lexeme.span := by
  constructor
  · intro h
    have htext : "" ++ String.ofList text.toList = text := by
      rw [String.empty_append, String.ofList_toList]
    rw [Tokenizes, ← htext] at h
    obtain ⟨ts, hcuts, hss⟩ := exists_cuts_of_tokenizesFrom "" h
    rw [hss, Token.cuts_iff.mp hcuts, Token.scan, String.utf8ByteSize_empty]
  · rintro rfl
    have h := tokenizesFrom_of_cuts (Token.cuts_ofChars text.toList) ""
    rw [String.empty_append, String.ofList_toList] at h
    exact h

end TextTemplate
