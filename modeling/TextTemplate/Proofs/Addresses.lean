import Mathlib.Data.Prod.Lex
import TextTemplate.Proofs.LinesAndColumns

/-!
# Addresses

The line and the column of an offset are an address: they tell where in the text the offset is.

* `Position.rank` puts positions in the order in which a reader comes to them.
* `Position.offset?` goes the way back, from a position to the start of its line and on to its
  column.
* `Addresses` says of positions for all offsets that they are faithful addresses: between two
  characters they increase with the offset and lead back to it, and any other offset has the
  position of such a place.
* `addresses_iff`: the only faithful addresses are those of `lineColumn`.
-/

namespace TextTemplate

open Text

/-! ## Boundaries -/

/-- The offsets between the characters of a text, its start and its end among them. -/
def boundaries (text : String) : Set Nat := {n | (⟨n⟩ : String.Pos.Raw).IsValid text}

theorem mem_boundaries_iff {text : String} {n : Nat} :
    n ∈ boundaries text ↔
      ∃ before after, text.toList = before ++ after ∧ n = utf8Width before := by
  rw [boundaries, Set.mem_ofPred_eq, String.Pos.Raw.isValid_iff_exists_append]
  constructor
  · rintro ⟨before, after, rfl, hn⟩
    refine ⟨before.toList, after.toList, String.toList_append, ?_⟩
    rw [utf8Width_toList]
    exact congrArg String.Pos.Raw.byteIdx hn
  · rintro ⟨before, after, htext, rfl⟩
    refine ⟨String.ofList before, String.ofList after, ?_, ?_⟩
    · rw [← String.ofList_append, ← htext, String.ofList_toList]
    · rw [← utf8ByteSize_ofList]
      rfl

theorem utf8ByteSize_mem_boundaries (before after : String) :
    before.utf8ByteSize ∈ boundaries (before ++ after) :=
  mem_boundaries_iff.mpr
    ⟨before.toList, after.toList, String.toList_append, (utf8Width_toList before).symm⟩

/-- An offset cuts characters between two of them, cuts one of them, or is past their end. -/
theorem exists_cut (cs : List Char) (n : Nat) :
    (∃ before after, cs = before ++ after ∧ n = utf8Width before) ∨
      (∃ before c after, cs = before ++ c :: after ∧ utf8Width before < n ∧
        n < utf8Width before + c.utf8Size) ∨
      utf8Width cs < n := by
  by_cases hzero : n = 0
  · exact Or.inl ⟨[], cs, rfl, hzero⟩
  · induction cs generalizing n with
    | nil => exact Or.inr (Or.inr (Nat.pos_of_ne_zero hzero))
    | cons c cs ih =>
      rcases Nat.lt_trichotomy n c.utf8Size with hn | hn | hn
      · refine Or.inr (Or.inl ⟨[], c, cs, rfl, Nat.pos_of_ne_zero hzero, ?_⟩)
        rwa [utf8Width, Nat.zero_add]
      · exact Or.inl ⟨[c], cs, rfl, hn⟩
      · have hrest : n = c.utf8Size + (n - c.utf8Size) := by omega
        rcases ih (n - c.utf8Size) (by omega) with ⟨before, after, rfl, h⟩ |
          ⟨before, d, after, rfl, h, h'⟩ | h
        · refine Or.inl ⟨c :: before, after, rfl, ?_⟩
          rw [utf8Width, ← h, ← hrest]
        · refine Or.inr (Or.inl ⟨c :: before, d, after, rfl, ?_, ?_⟩)
          · rw [utf8Width]
            omega
          · rw [utf8Width]
            omega
        · refine Or.inr (Or.inr ?_)
          rw [utf8Width]
          omega

/-- An offset is between two characters, inside of one, or past the end. -/
theorem offset_cases (text : String) (n : Nat) :
    n ∈ boundaries text ∨
      (∃ (before : String) (c : Char) (after : String), text = before.push c ++ after ∧
        before.utf8ByteSize < n ∧ n < (before.push c).utf8ByteSize) ∨
      text.utf8ByteSize < n := by
  rcases exists_cut text.toList n with h | ⟨before, c, after, htext, hn, hn'⟩ | h
  · exact Or.inl (mem_boundaries_iff.mpr h)
  · refine Or.inr (Or.inl ⟨String.ofList before, c, String.ofList after, ?_, ?_, ?_⟩)
    · rw [← String.toList_inj, htext]
      simp
    · rwa [utf8ByteSize_ofList]
    · rwa [String.utf8ByteSize_push, utf8ByteSize_ofList]
  · exact Or.inr (Or.inr (by rwa [← utf8Width_toList]))

namespace Position

/-! ## The order of reading -/

/-- The order of positions: by line, and in a line by column. -/
def rank (p : Position) : ℕ ×ₗ ℕ := toLex (p.line, p.column)

theorem rank_lt_rank_next (p : Position) (c : Char) : p.rank < (p.next c).rank := by
  rw [rank, rank, Prod.Lex.toLex_lt_toLex, next]
  split
  · exact Or.inl (Nat.lt_succ_self p.line)
  · exact Or.inr ⟨rfl, Nat.lt_succ_self p.column⟩

theorem rank_lt_rank_foldl {cs : List Char} (h : cs ≠ []) (p : Position) :
    p.rank < (cs.foldl next p).rank := by
  induction cs generalizing p with
  | nil => exact absurd rfl h
  | cons c cs ih =>
    have hstep := p.rank_lt_rank_next c
    by_cases hcs : cs = []
    · subst hcs
      exact hstep
    · exact hstep.trans (ih hcs (p.next c))

end Position

/-! ## The way back -/

namespace Text

/-- The octets in front of the line `i` of lines, counted from 0: those of the lines above it, with
a line feed after each of them. -/
def lineStart (lines : List (List Char)) (i : Nat) : Nat :=
  utf8Width ((lines.take i).flatMap (· ++ ['\n']))

theorem utf8Width_intercalate (above : List (List Char)) (part : List Char) :
    utf8Width (['\n'].intercalate (above ++ [part])) =
      utf8Width (above.flatMap (· ++ ['\n'])) + utf8Width part := by
  induction above with
  | nil => simp [utf8Width]
  | cons line above ih =>
    rw [List.cons_append, List.intercalate_cons_of_ne_nil (by simp), List.flatMap_cons,
      utf8Width_append, ih, utf8Width_append (line ++ ['\n']), Nat.add_assoc]

end Text

/-- The offset of a position: a walk from the start of its line over the characters in front of its
column. There is a column after the last character of a line, and none further on. -/
def Position.offset? (p : Position) (text : String) : Option Nat :=
  match p with
  | ⟨i + 1, j + 1⟩ =>
    let lines := splitOn '\n' text.toList
    (lines[i]?.filter (j ≤ ·.length)).map fun line =>
      lineStart lines i + utf8Width (line.take j)
  | _ => none

/-- What stands in front of a position is the lines above it and a part of its line. -/
theorem Position.offset?_eq_some_iff {p : Position} {text : String} {n : Nat} :
    p.offset? text = some n ↔
      ∃ above part rest below, splitOn '\n' text.toList = above ++ (part ++ rest) :: below ∧
        p = ⟨above.length + 1, part.length + 1⟩ ∧
        n = utf8Width (['\n'].intercalate (above ++ [part])) := by
  constructor
  · intro h
    unfold offset? at h
    split at h
    · rename_i i j
      obtain ⟨line, hfilter, rfl⟩ := Option.map_eq_some_iff.mp h
      obtain ⟨hline, hj⟩ := Option.filter_eq_some_iff.mp hfilter
      obtain ⟨hi, hget⟩ := List.getElem?_eq_some_iff.mp hline
      refine ⟨(splitOn '\n' text.toList).take i, line.take j, line.drop j,
        (splitOn '\n' text.toList).drop (i + 1), ?_, ?_, ?_⟩
      · rw [List.take_append_drop, ← hget, ← List.drop_eq_getElem_cons hi, List.take_append_drop]
      · rw [List.length_take_of_le (Nat.le_of_lt hi),
          List.length_take_of_le (of_decide_eq_true hj)]
      · rw [utf8Width_intercalate, lineStart]
    · cases h
  · rintro ⟨above, part, rest, below, hlines, rfl, rfl⟩
    have hline : (above ++ (part ++ rest) :: below)[above.length]? = some (part ++ rest) := by simp
    have hcolumn : (some (part ++ rest)).filter (part.length ≤ ·.length) = some (part ++ rest) :=
      Option.filter_some_pos (by simp)
    simp only [offset?, hlines, hline, hcolumn, Option.map_some, lineStart, List.take_left]
    rw [utf8Width_intercalate]

/-! ## Offsets -/

section Offsets

variable {text : String} {n : Nat}

/-- Between two characters, positions and offsets lead to each other. -/
theorem offset?_eq_some_iff_lineColumn {p : Position} :
    p.offset? text = some n ↔ n ∈ boundaries text ∧ lineColumn text n = p := by
  rw [Position.offset?_eq_some_iff, mem_boundaries_iff]
  constructor
  · rintro ⟨above, part, rest, below, hlines, rfl, rfl⟩
    obtain ⟨before, after, htext, hbefore, -⟩ := splitOn_eq_append_iff.mp hlines
    rw [(splitOn_eq_iff.mp hbefore).2.2]
    exact ⟨⟨before, after, htext, rfl⟩, lineColumn_of_append htext hbefore⟩
  · rintro ⟨⟨before, after, htext, rfl⟩, rfl⟩
    obtain ⟨above, part, hbefore⟩ := exists_splitOn_eq_concat '\n' before
    obtain ⟨rest, below, hafter⟩ := exists_splitOn_eq_cons '\n' after
    refine ⟨above, part, rest, below, ?_, lineColumn_of_append htext hbefore, ?_⟩
    · exact splitOn_eq_append_iff.mpr ⟨before, after, htext, hbefore, hafter⟩
    · rw [(splitOn_eq_iff.mp hbefore).2.2]

/-- A reader comes to later offsets later. -/
theorem strictMonoOn_rank_lineColumn (text : String) :
    StrictMonoOn (fun n => (lineColumn text n).rank) (boundaries text) := by
  intro m hm n hn hlt
  obtain ⟨before, after, htext, rfl⟩ := mem_boundaries_iff.mp hm
  obtain ⟨before', after', htext', rfl⟩ := mem_boundaries_iff.mp hn
  dsimp only
  rw [lineColumn_eq_foldl htext, lineColumn_eq_foldl htext']
  rcases List.append_eq_append_iff.mp (htext.symm.trans htext') with
    ⟨middle, rfl, -⟩ | ⟨middle, rfl, -⟩
  · have hmiddle : middle ≠ [] := by
      rintro rfl
      simp at hlt
    rw [List.foldl_append]
    exact Position.rank_lt_rank_foldl hmiddle _
  · rw [utf8Width_append] at hlt
    omega

/-- An offset inside of a character or behind it has the position behind it. -/
theorem lineColumn_inside {before after : String} {c : Char} (h : text = before.push c ++ after)
    (hn : before.utf8ByteSize < n) (hn' : n ≤ (before.push c).utf8ByteSize) :
    lineColumn text n = lineColumn text (before.push c).utf8ByteSize := by
  have htext : text.toList = before.toList ++ c :: after.toList := by simp [h]
  rw [← utf8Width_toList] at hn
  rw [String.utf8ByteSize_push, ← utf8Width_toList] at hn' ⊢
  -- Behind the characters of `before`, what is left of the offset ends with the next character.
  have hbehind (k : Nat) (hk : utf8Width before.toList < k)
      (hk' : k ≤ utf8Width before.toList + c.utf8Size) :
      lineColumn text k = (before.toList.foldl Position.next Position.first).next c := by
    have hrest : k - utf8Width before.toList ≠ 0 := by omega
    have hcovered : k - utf8Width before.toList - c.utf8Size = 0 := by omega
    rw [lineColumn, htext, Position.advance_append _ (Nat.le_of_lt hk), Position.advance,
      if_neg hrest, hcovered, Position.advance_zero]
  rw [hbehind n hn hn', hbehind _ (by omega) (Nat.le_refl _)]

theorem lineColumn_of_utf8ByteSize_le (h : text.utf8ByteSize ≤ n) :
    lineColumn text n = lineColumn text text.utf8ByteSize := by
  have hend (k : Nat) (hk : text.utf8ByteSize ≤ k) :
      lineColumn text k = text.toList.foldl Position.next Position.first := by
    rw [← utf8Width_toList] at hk
    rw [lineColumn, ← List.append_nil text.toList, Position.advance_append _ hk, List.append_nil]
    rfl
  rw [hend n h, hend _ (Nat.le_refl _)]

end Offsets

/-! ## Faithful addresses -/

/-- Positions for the offsets of a text are faithful addresses. -/
structure Addresses (text : String) (place : Nat → Position) : Prop where
  /-- Between characters, positions increase in the order of lines and columns. -/
  increasing : StrictMonoOn (fun n => (place n).rank) (boundaries text)
  injective : (boundaries text).InjOn place
  /-- The walk to a line and a column inverts them. -/
  inverse : ∀ p n, p.offset? text = some n ↔ n ∈ boundaries text ∧ place n = p
  /-- An offset strictly inside of a character has the position of the boundary behind it. -/
  inside : ∀ (before : String) c after n, text = before.push c ++ after → before.utf8ByteSize < n →
    n < (before.push c).utf8ByteSize → place n = place (before.push c).utf8ByteSize
  /-- An offset past the end has the position of the end. -/
  pastEnd : ∀ n, text.utf8ByteSize < n → place n = place text.utf8ByteSize

theorem addresses_lineColumn (text : String) : Addresses text (lineColumn text) where
  increasing := strictMonoOn_rank_lineColumn text
  injective _ hm _ hn h :=
    (strictMonoOn_rank_lineColumn text).injOn hm hn (congrArg Position.rank h)
  inverse _ _ := offset?_eq_some_iff_lineColumn
  inside _ _ _ _ htext hn hn' := lineColumn_inside htext hn (Nat.le_of_lt hn')
  pastEnd _ hn := lineColumn_of_utf8ByteSize_le (Nat.le_of_lt hn)

/-- Faithful addresses leave no choice. -/
theorem Addresses.unique {text : String} {place place' : Nat → Position}
    (h : Addresses text place) (h' : Addresses text place') : place = place' := by
  have hboundary (n : Nat) (hn : n ∈ boundaries text) : place n = place' n :=
    ((h'.inverse (place n) n).mp ((h.inverse (place n) n).mpr ⟨hn, rfl⟩)).2.symm
  funext n
  rcases offset_cases text n with hn | ⟨before, c, after, htext, hn, hn'⟩ | hn
  · exact hboundary n hn
  · have hbehind : (before.push c).utf8ByteSize ∈ boundaries text := by
      rw [htext]
      exact utf8ByteSize_mem_boundaries (before.push c) after
    rw [h.inside before c after n htext hn hn', h'.inside before c after n htext hn hn',
      hboundary _ hbehind]
  · have hend : text.utf8ByteSize ∈ boundaries text := by
      have hwhole := utf8ByteSize_mem_boundaries text ""
      rwa [String.append_empty] at hwhole
    rw [h.pastEnd n hn, h'.pastEnd n hn, hboundary _ hend]

/-- The only faithful addresses of the offsets of a text are their lines and columns. -/
theorem addresses_iff {text : String} {place : Nat → Position} :
    Addresses text place ↔ place = lineColumn text := by
  constructor
  · intro h
    exact h.unique (addresses_lineColumn text)
  · rintro rfl
    exact addresses_lineColumn text

/-- The last character of a text takes the offsets from 4 to 6 and stands below an empty line. -/
example : lineColumn "ü\n\nß" 5 = ⟨3, 2⟩ ∧ Position.offset? ⟨3, 2⟩ "ü\n\nß" = some 6 := by decide

end TextTemplate
