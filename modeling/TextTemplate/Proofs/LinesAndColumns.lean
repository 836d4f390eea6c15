import TextTemplate.Position
import TextTemplate.Proofs.Offsets
import TextTemplate.Text.Lines

/-!
# Lines and columns

What a reader finds at the line and column that an error message tells.

* `Text.splitOn_eq_iff`: the pieces of a text are the only ones without a separator that make up the
  text when they are joined. So a text is cut in the pieces of two texts in the only way that cuts
  it into these texts (`Text.splitOn_eq_append_iff`).
* `lineColumn_of_append`: the line and the column of an offset are the number of lines in front of
  it and the length of the last one, both counted from 1.
* `Text.withEnds` gives lines that line feeds separate back the line feeds that end them. What
  stands in them stands in the lines themselves, or is such an end (`StandsAt.of_withEnds`).
* `standsAt_lineColumn`: the character after a part of a text stands in the line and the column that
  `lineColumn` makes of the octets of that part.
-/

namespace TextTemplate

namespace Text

/-! ## Pieces -/

section Pieces

variable {separator : Char}

theorem splitOn_cons_self (separator : Char) (cs : List Char) :
    splitOn separator (separator :: cs) = [] :: splitOn separator cs := by
  rw [splitOn, if_pos rfl]

theorem splitOn_cons_of_ne {c : Char} (h : c ≠ separator) {cs piece : List Char}
    {pieces : List (List Char)} (hcs : splitOn separator cs = piece :: pieces) :
    splitOn separator (c :: cs) = (c :: piece) :: pieces := by
  rw [splitOn, if_neg h, hcs]

theorem exists_splitOn_eq_cons (separator : Char) (cs : List Char) :
    ∃ piece pieces, splitOn separator cs = piece :: pieces :=
  List.exists_cons_of_ne_nil (splitOn_ne_nil separator cs)

theorem exists_splitOn_eq_concat (separator : Char) (cs : List Char) :
    ∃ pieces piece, splitOn separator cs = pieces ++ [piece] :=
  ⟨_, _, (List.dropLast_concat_getLast (splitOn_ne_nil separator cs)).symm⟩

/-- A text is cut as a list is. -/
theorem splitOn_eq (separator : Char) (cs : List Char) :
    splitOn separator cs = cs.splitOn separator := by
  induction cs with
  | nil => rfl
  | cons c cs ih =>
    rw [List.splitOn_cons_eq_if_modifyHead, ← ih]
    by_cases hc : c = separator
    · subst hc
      rw [splitOn_cons_self, if_pos (beq_self_eq_true c)]
    · obtain ⟨piece, pieces, hcs⟩ := exists_splitOn_eq_cons separator cs
      rw [splitOn_cons_of_ne hc hcs, hcs, if_neg (by simp [hc]), List.modifyHead_cons]

theorem not_mem_of_mem_splitOn {cs piece : List Char} (h : piece ∈ splitOn separator cs) :
    separator ∉ piece := by
  induction cs generalizing piece with
  | nil =>
    obtain rfl := List.mem_singleton.mp h
    exact List.not_mem_nil
  | cons c cs ih =>
    by_cases hc : c = separator
    · subst hc
      rw [splitOn_cons_self] at h
      rcases List.mem_cons.mp h with rfl | h
      · exact List.not_mem_nil
      · exact ih h
    · obtain ⟨first, pieces, hcs⟩ := exists_splitOn_eq_cons separator cs
      rw [splitOn_cons_of_ne hc hcs] at h
      rw [hcs] at ih
      rcases List.mem_cons.mp h with rfl | h
      · simp [Ne.symm hc, ih List.mem_cons_self]
      · exact ih (List.mem_cons_of_mem first h)

/-- The pieces of a text are the only ones without a separator that it is joined from. -/
theorem splitOn_eq_iff {cs : List Char} {pieces : List (List Char)} :
    splitOn separator cs = pieces ↔
      pieces ≠ [] ∧ (∀ piece ∈ pieces, separator ∉ piece) ∧
        [separator].intercalate pieces = cs := by
  constructor
  · rintro rfl
    refine ⟨splitOn_ne_nil separator cs, fun _ => not_mem_of_mem_splitOn, ?_⟩
    rw [splitOn_eq, List.intercalate_splitOn]
  · rintro ⟨hne, hpieces, rfl⟩
    rw [splitOn_eq, List.splitOn_intercalate separator hpieces hne]

section Cut

variable {part rest : List Char} {above below : List (List Char)}

theorem intercalate_append (separator : List Char) :
    separator.intercalate (above ++ (part ++ rest) :: below) =
      separator.intercalate (above ++ [part]) ++ separator.intercalate (rest :: below) := by
  induction above with
  | nil => cases below <;> simp
  | cons line above ih =>
    have hline (lines : List (List Char)) (h : lines ≠ []) :
        separator.intercalate (line :: (above ++ lines)) =
          line ++ separator ++ separator.intercalate (above ++ lines) :=
      List.intercalate_cons_of_ne_nil (List.append_ne_nil_of_right_ne_nil above h)
    rw [List.cons_append, hline _ (List.cons_ne_nil _ _), ih, List.cons_append,
      hline _ (List.cons_ne_nil _ _)]
    simp only [List.append_assoc]

theorem forall_not_mem_append_iff :
    (∀ piece ∈ above ++ (part ++ rest) :: below, separator ∉ piece) ↔
      (∀ piece ∈ above ++ [part], separator ∉ piece) ∧
        ∀ piece ∈ rest :: below, separator ∉ piece := by
  rw [List.forall_mem_append, List.forall_mem_append, List.forall_mem_singleton,
    List.forall_mem_cons, List.forall_mem_cons, List.mem_append, not_or, and_assoc, and_assoc]

/-- To cut a piece of a text in two is to cut the text in two. -/
theorem splitOn_eq_append_iff {cs : List Char} :
    splitOn separator cs = above ++ (part ++ rest) :: below ↔
      ∃ before after, cs = before ++ after ∧ splitOn separator before = above ++ [part] ∧
        splitOn separator after = rest :: below := by
  constructor
  · intro h
    obtain ⟨-, hpieces, rfl⟩ := splitOn_eq_iff.mp h
    obtain ⟨hleft, hright⟩ := forall_not_mem_append_iff.mp hpieces
    exact ⟨_, _, intercalate_append [separator], splitOn_eq_iff.mpr ⟨by simp, hleft, rfl⟩,
      splitOn_eq_iff.mpr ⟨by simp, hright, rfl⟩⟩
  · rintro ⟨before, after, rfl, hbefore, hafter⟩
    obtain ⟨-, hleft, rfl⟩ := splitOn_eq_iff.mp hbefore
    obtain ⟨-, hright, rfl⟩ := splitOn_eq_iff.mp hafter
    exact splitOn_eq_iff.mpr ⟨by simp, forall_not_mem_append_iff.mpr ⟨hleft, hright⟩,
      intercalate_append [separator]⟩

end Cut

end Pieces

/-! ## Ends of lines -/

/-- Each line with the line feed that ends it. The last line has none. -/
def withEnds : List (List Char) → List (List Char)
  | [] => []
  | [line] => [line]
  | line :: line' :: lines => (line ++ ['\n']) :: withEnds (line' :: lines)

theorem withEnds_cons {lines : List (List Char)} (line : List Char) (h : lines ≠ []) :
    withEnds (line :: lines) = (line ++ ['\n']) :: withEnds lines := by
  cases lines with
  | nil => exact absurd rfl h
  | cons line' lines => rw [withEnds]

theorem withEnds_append (above : List (List Char)) {lines : List (List Char)} (h : lines ≠ []) :
    withEnds (above ++ lines) = above.map (· ++ ['\n']) ++ withEnds lines := by
  induction above with
  | nil => rfl
  | cons line above ih =>
    rw [List.cons_append, withEnds_cons line (List.append_ne_nil_of_right_ne_nil above h), ih]
    rfl

/-- A line with its end is the line, or one character longer if there are lines below. -/
theorem getElem?_withEnds {lines : List (List Char)} {i : Nat} {line : List Char}
    (h : (withEnds lines)[i]? = some line) :
    ∃ line', lines[i]? = some line' ∧
      (line = line' ∨ line = line' ++ ['\n'] ∧ i + 1 < lines.length) := by
  induction lines generalizing i with
  | nil => simp [withEnds] at h
  | cons first lines ih =>
    by_cases hlines : lines = []
    · subst hlines
      exact ⟨line, h, Or.inl rfl⟩
    · rw [withEnds_cons first hlines] at h
      cases i with
      | zero =>
        simp only [List.getElem?_cons_zero, Option.some.injEq] at h
        have hbelow : 0 + 1 < (first :: lines).length :=
          Nat.succ_lt_succ (List.length_pos_iff.mpr hlines)
        exact ⟨first, rfl, Or.inr ⟨h.symm, hbelow⟩⟩
      | succ i =>
        rw [List.getElem?_cons_succ] at h
        rcases ih h with ⟨line', hline', hsame | ⟨hends, hbelow⟩⟩
        · exact ⟨line', hline', Or.inl hsame⟩
        · exact ⟨line', hline', Or.inr ⟨hends, Nat.succ_lt_succ hbelow⟩⟩

/-- With its end, the first line of a text has the first character of the text, which may be this
end. -/
theorem exists_withEnds_eq_cons {c : Char} {after piece : List Char} {below : List (List Char)}
    (h : splitOn '\n' (c :: after) = piece :: below) (part : List Char) :
    ∃ rest lines, withEnds ((part ++ piece) :: below) = (part ++ c :: rest) :: lines := by
  by_cases hc : c = '\n'
  · subst hc
    rw [splitOn_cons_self] at h
    obtain ⟨rfl, rfl⟩ := List.cons.inj h
    rw [withEnds_cons _ (splitOn_ne_nil '\n' after), List.append_nil]
    exact ⟨[], _, rfl⟩
  · obtain ⟨piece', pieces, hafter⟩ := exists_splitOn_eq_cons '\n' after
    rw [splitOn_cons_of_ne hc hafter] at h
    obtain ⟨rfl, rfl⟩ := List.cons.inj h
    cases pieces with
    | nil => exact ⟨piece', [], rfl⟩
    | cons line lines => exact ⟨piece' ++ ['\n'], withEnds (line :: lines), by simp [withEnds]⟩

end Text

open Text

/-- The character stands in the line and the column of the position, both counted from 1. -/
def StandsAt (lines : List (List Char)) (p : Position) (c : Char) : Prop :=
  ∃ i j row, p = ⟨i + 1, j + 1⟩ ∧ lines[i]? = some row ∧ row[j]? = some c

/-- The position is one column behind a line, and there are lines below. -/
def EndsAt (lines : List (List Char)) (p : Position) : Prop :=
  ∃ i row, p = ⟨i + 1, row.length + 1⟩ ∧ lines[i]? = some row ∧ i + 1 < lines.length

section Places

variable {lines : List (List Char)} {p : Position} {c : Char}

/-- What stands in a line with its end stands in the line, or is the end. -/
theorem StandsAt.of_withEnds (h : StandsAt (withEnds lines) p c) :
    StandsAt lines p c ∨ c = '\n' ∧ EndsAt lines p := by
  rcases h with ⟨i, j, row, hp, hrow, hj⟩
  rcases getElem?_withEnds hrow with ⟨row', hrow', rfl | ⟨rfl, hbelow⟩⟩
  · exact Or.inl ⟨i, j, row, hp, hrow', hj⟩
  · by_cases hlen : j < row'.length
    · rw [List.getElem?_append_left hlen] at hj
      exact Or.inl ⟨i, j, row', hp, hrow', hj⟩
    · rw [List.getElem?_append_right (by omega)] at hj
      rw [List.getElem?_singleton, Option.ite_none_right_eq_some] at hj
      obtain ⟨hzero, hc⟩ := hj
      obtain rfl : j = row'.length := by omega
      exact Or.inr ⟨(Option.some.inj hc).symm, i, row', hp, hrow', hbelow⟩

/-- No character stands behind a line. -/
theorem EndsAt.not_standsAt (h : EndsAt lines p) : ¬ StandsAt lines p c := by
  rintro ⟨i, j, row, hp, hrow, hj⟩
  rcases h with ⟨i', row', hp', hrow', -⟩
  obtain ⟨hi, hcolumn⟩ := Position.mk.inj (hp.symm.trans hp')
  obtain rfl : i = i' := by omega
  obtain rfl := Option.some.inj (hrow.symm.trans hrow')
  have hlen := (List.getElem?_eq_some_iff.mp hj).1
  omega

/-- Line feeds stand between lines, never in them. -/
theorem StandsAt.ne_lineFeed {cs : List Char} (h : StandsAt (splitOn '\n' cs) p c) :
    c ≠ '\n' := by
  rintro rfl
  rcases h with ⟨i, j, row, -, hrow, hj⟩
  exact not_mem_of_mem_splitOn (List.mem_of_getElem? hrow) (List.mem_of_getElem? hj)

end Places

/-! ## Walks -/

namespace Position

@[simp] theorem advance_zero (p : Position) (cs : List Char) : p.advance 0 cs = p := by
  cases cs <;> rfl

/-- To walk over the octets of characters is to walk over the characters. -/
theorem advance_append (p : Position) {before : List Char} {n : Nat} (h : utf8Width before ≤ n)
    (after : List Char) :
    p.advance n (before ++ after) = (before.foldl next p).advance (n - utf8Width before) after := by
  induction before generalizing p n with
  | nil => rfl
  | cons c cs ih =>
    rw [utf8Width] at h ⊢
    have hpos : n ≠ 0 := by
      have := c.utf8Size_pos
      omega
    rw [List.cons_append, advance, if_neg hpos, ih (p.next c) (by omega), List.foldl_cons,
      Nat.sub_sub]

/-- A walk within a line goes on by columns. -/
theorem foldl_next_of_not_mem {part : List Char} (h : '\n' ∉ part) (p : Position) :
    part.foldl next p = ⟨p.line, p.column + part.length⟩ := by
  induction part generalizing p with
  | nil => rfl
  | cons c part ih =>
    simp only [List.mem_cons, not_or] at h
    rw [List.foldl_cons, ih h.2, next, if_neg (Ne.symm h.1), List.length_cons, Nat.add_assoc,
      Nat.add_comm 1]

/-- From the start of a line, a walk over lines goes on by lines, and by columns in the last one. -/
theorem foldl_next_intercalate {above : List (List Char)} (habove : ∀ line ∈ above, '\n' ∉ line)
    {part : List Char} (hpart : '\n' ∉ part) (n : Nat) :
    (['\n'].intercalate (above ++ [part])).foldl next ⟨n, 1⟩ =
      ⟨n + above.length, part.length + 1⟩ := by
  induction above generalizing n with
  | nil =>
    rw [List.nil_append, List.intercalate_singleton, foldl_next_of_not_mem hpart, Nat.add_comm 1]
    rfl
  | cons line above ih =>
    obtain ⟨hline, habove⟩ := List.forall_mem_cons.mp habove
    rw [List.cons_append, List.intercalate_cons_of_ne_nil (by simp), List.foldl_append,
      List.foldl_append, foldl_next_of_not_mem hline]
    have hend : ['\n'].foldl next ⟨n, 1 + line.length⟩ = ⟨n + 1, 1⟩ := rfl
    rw [hend, ih habove, List.length_cons, Nat.add_assoc, Nat.add_comm 1]

end Position

section Offsets

variable {text : String} {before after : List Char}

theorem lineColumn_eq_foldl (h : text.toList = before ++ after) :
    lineColumn text (utf8Width before) = before.foldl Position.next Position.first := by
  rw [lineColumn, h, Position.advance_append _ (Nat.le_refl _), Nat.sub_self,
    Position.advance_zero]

/-- An offset after some lines and a part of the next one. -/
theorem lineColumn_of_append (h : text.toList = before ++ after) {above : List (List Char)}
    {part : List Char} (hbefore : splitOn '\n' before = above ++ [part]) :
    lineColumn text (utf8Width before) = ⟨above.length + 1, part.length + 1⟩ := by
  rw [lineColumn_eq_foldl h]
  obtain ⟨-, hlines, rfl⟩ := splitOn_eq_iff.mp hbefore
  obtain ⟨habove, hpart⟩ := List.forall_mem_append.mp hlines
  rw [Position.first, Position.foldl_next_intercalate habove (hpart part List.mem_cons_self),
    Nat.add_comm 1]

/-- The character after a part of a text stands in the line and the column of this offset. -/
theorem standsAt_lineColumn {c : Char} (h : text.toList = before ++ c :: after) :
    StandsAt (withEnds (splitOn '\n' text.toList)) (lineColumn text (utf8Width before)) c := by
  obtain ⟨above, part, hbefore⟩ := exists_splitOn_eq_concat '\n' before
  obtain ⟨piece, below, hafter⟩ := exists_splitOn_eq_cons '\n' (c :: after)
  obtain ⟨rest, lines, hline⟩ := exists_withEnds_eq_cons hafter part
  rw [splitOn_eq_append_iff.mpr ⟨before, c :: after, h, hbefore, hafter⟩,
    lineColumn_of_append h hbefore, withEnds_append above (List.cons_ne_nil _ _), hline]
  exact ⟨above.length, part.length, part ++ c :: rest, rfl, by simp, by simp⟩

end Offsets

/-- What is written at an offset begins in the line and the column of the offset. -/
theorem WrittenAt.standsAt {text part : String} {n : Nat} (h : WrittenAt text n part) {c : Char}
    {rest : List Char} (hpart : part.toList = c :: rest) :
    StandsAt (withEnds (splitOn '\n' text.toList)) (lineColumn text n) c := by
  rcases h with ⟨before, after, htext, hn⟩
  rw [← hn, ← utf8Width_toList]
  apply standsAt_lineColumn
  rw [htext, String.toList_append, String.toList_append, hpart, List.append_assoc]
  rfl

end TextTemplate
