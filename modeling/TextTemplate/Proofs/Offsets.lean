import TextTemplate.Token

/-!
# Offsets

Positions of trees and errors are offsets into a text, which count the octets of its UTF-8 form.

* `WrittenAt` says what is written in a text from an offset on. Such an offset is never inside of a
  character.
* `utf8ByteSize_ofList`: the octets of characters are those of the text that they make up.
-/

namespace TextTemplate

theorem utf8ByteSize_ofList (cs : List Char) : (String.ofList cs).utf8ByteSize = utf8Width cs := by
  induction cs with
  | nil => rfl
  | cons c cs ih =>
    rw [String.ofList_cons, String.utf8ByteSize_append, String.utf8ByteSize_singleton, ih,
      utf8Width]

theorem utf8Width_toList (s : String) : utf8Width s.toList = s.utf8ByteSize := by
  rw [← utf8ByteSize_ofList, String.ofList_toList]

theorem utf8Width_eq_zero {cs : List Char} (h : utf8Width cs = 0) : cs = [] := by
  cases cs with
  | nil => rfl
  | cons c cs =>
    have hpos := c.utf8Size_pos
    rw [utf8Width] at h
    omega

/-- A text can be cut at an offset in one way only. -/
theorem append_inj_of_utf8Width_eq {as bs cs ds : List Char} (h : as ++ cs = bs ++ ds)
    (hw : utf8Width as = utf8Width bs) : as = bs ∧ cs = ds := by
  induction as generalizing bs with
  | nil =>
    obtain rfl := utf8Width_eq_zero hw.symm
    exact ⟨rfl, h⟩
  | cons a as ih =>
    cases bs with
    | nil => cases utf8Width_eq_zero hw
    | cons b bs =>
      rw [List.cons_append, List.cons_append] at h
      injection h with hhead htail
      subst hhead
      rw [utf8Width, utf8Width] at hw
      obtain ⟨rfl, hrest⟩ := ih htail (by omega)
      exact ⟨rfl, hrest⟩

/-- From an offset on, `text` begins with `part`. -/
def WrittenAt (text : String) (offset : Nat) (part : String) : Prop :=
  ∃ before after : String, text = before ++ part ++ after ∧ before.utf8ByteSize = offset

namespace WrittenAt

variable {text middle part rest : String} {n k : Nat}

theorem self (text : String) : WrittenAt text 0 text := by
  refine ⟨"", "", ?_, rfl⟩
  simp

/-- More text at the end makes no difference. -/
theorem append (h : WrittenAt text n part) (after : String) : WrittenAt (text ++ after) n part := by
  rcases h with ⟨before, after', rfl, hn⟩
  exact ⟨before, after' ++ after, by simp only [String.append_assoc], hn⟩

/-- What is written in a part is written in the whole. -/
theorem trans (h : WrittenAt text n middle) (h' : WrittenAt middle k part) :
    WrittenAt text (n + k) part := by
  rcases h with ⟨before, after, rfl, rfl⟩
  rcases h' with ⟨before', after', rfl, rfl⟩
  refine ⟨before ++ before', after' ++ after, ?_, ?_⟩
  · simp only [String.append_assoc]
  · rw [String.utf8ByteSize_append]

/-- What is written ends within the text. -/
theorem le_size (h : WrittenAt text n part) : n + part.utf8ByteSize ≤ text.utf8ByteSize := by
  rcases h with ⟨before, after, rfl, rfl⟩
  simp only [String.utf8ByteSize_append]
  omega

/-- What stands after `before`. -/
theorem mid (before part after : String) :
    WrittenAt (before ++ part ++ after) before.utf8ByteSize part :=
  ⟨before, after, rfl, rfl⟩

theorem last (before part : String) : WrittenAt (before ++ part) before.utf8ByteSize part := by
  have h := mid before part ""
  rw [String.append_empty] at h
  exact h

/-- What is written after `before` is what the rest begins with. -/
theorem iff_prefix {before rest part : String} :
    WrittenAt (before ++ rest) before.utf8ByteSize part ↔ part.toList <+: rest.toList := by
  constructor
  · rintro ⟨before', after, htext, hsize⟩
    have hchars := congrArg String.toList htext
    rw [String.append_assoc, String.toList_append, String.toList_append,
      String.toList_append] at hchars
    have hwidth : utf8Width before.toList = utf8Width before'.toList := by
      rw [utf8Width_toList, utf8Width_toList, hsize]
    exact ⟨after.toList, (append_inj_of_utf8Width_eq hchars hwidth).2.symm⟩
  · rintro ⟨after, hafter⟩
    refine ⟨before, String.ofList after, ?_, rfl⟩
    rw [String.append_assoc, ← String.ofList_toList (s := part), ← String.ofList_append, hafter,
      String.ofList_toList]

/-- What is written after `before` stands after some characters of the rest. -/
theorem exists_after {before rest part : String} {n : Nat} (h : WrittenAt (before ++ rest) n part)
    (hn : before.utf8ByteSize ≤ n) :
    ∃ cs ds, rest.toList = cs ++ ds ∧ n = before.utf8ByteSize + utf8Width cs ∧
      part.toList <+: ds := by
  rcases h with ⟨before', after, htext, rfl⟩
  have hchars := congrArg String.toList htext
  rw [String.append_assoc, String.toList_append, String.toList_append,
    String.toList_append] at hchars
  rw [← utf8Width_toList, ← utf8Width_toList] at hn ⊢
  rcases List.append_eq_append_iff.mp hchars with ⟨cs, hbefore, hrest⟩ | ⟨cs, hbefore, hrest⟩
  · rw [hbefore, utf8Width_append]
    exact ⟨cs, part.toList ++ after.toList, hrest, rfl, List.prefix_append _ _⟩
  · rw [hbefore, utf8Width_append] at hn ⊢
    have hcs : cs = [] := utf8Width_eq_zero (by omega)
    subst hcs
    exact ⟨[], rest.toList, rfl, rfl, ⟨after.toList, hrest⟩⟩

end WrittenAt

end TextTemplate
