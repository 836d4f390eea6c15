import TextTemplate.Proofs.Compilation
import TextTemplate.Proofs.PlainText
import TextTemplate.Proofs.Rendering

/-!
# Escaping

Outside of references, a backslash keeps a `${` from opening one.

* `Text.backslashesAtEnd` counts the backslashes in front of a place. A text is escaped if their
  number is odd in front of every `${` (`Text.IsEscaped`).
* `Grammar.Splits.isEscaped_iff`: these are the texts that have no opening among their symbols.
* `Engine.compile_escaped`: these are the texts that compile to pure literals, and their value is
  the text without the backslashes that stand right before a `${` (`Text.dropEscapes`).
-/

namespace TextTemplate

namespace Text

/-- The number of backslashes at the end. -/
def backslashesAtEnd (cs : List Char) : Nat := (cs.reverse.takeWhile (· = '\\')).length

/-- In front of every `${` there is an odd number of backslashes. -/
def IsEscaped (cs : List Char) : Prop :=
  ∀ before after, cs = before ++ '$' :: '{' :: after → backslashesAtEnd before % 2 = 1

/-- Drops the backslashes that stand right before a `${`. -/
def dropEscapes : List Char → List Char
  | [] => []
  | c :: cs =>
    if c = '\\' ∧ ['$', '{'] <+: cs then dropEscapes cs else c :: dropEscapes cs

/-! ## Runs of backslashes -/

theorem backslashesAtEnd_le (cs : List Char) : backslashesAtEnd cs ≤ cs.length := by
  rw [← cs.length_reverse]
  exact (List.takeWhile_sublist _).length_le

/-- A character in front counts only if there are nothing but backslashes after it. -/
theorem backslashesAtEnd_cons (c : Char) (cs : List Char) :
    backslashesAtEnd (c :: cs) =
      if backslashesAtEnd cs = cs.length then cs.length + backslashesAtEnd [c]
      else backslashesAtEnd cs := by
  unfold backslashesAtEnd
  rw [List.reverse_cons, List.takeWhile_append, List.length_reverse]
  split
  · rw [List.length_append, List.length_reverse, List.reverse_singleton]
  · rfl

theorem backslashesAtEnd_cons_of_ne {c : Char} (h : c ≠ '\\') (cs : List Char) :
    backslashesAtEnd (c :: cs) = backslashesAtEnd cs := by
  have hc : backslashesAtEnd [c] = 0 := by simp [backslashesAtEnd, h]
  rw [backslashesAtEnd_cons, hc]
  split
  · omega
  · rfl

theorem backslashesAtEnd_cons_cons_of_ne (c : Char) {d : Char} (h : d ≠ '\\') (cs : List Char) :
    backslashesAtEnd (c :: d :: cs) = backslashesAtEnd (d :: cs) := by
  have hle := backslashesAtEnd_le cs
  rw [backslashesAtEnd_cons c, backslashesAtEnd_cons_of_ne h, if_neg]
  rw [List.length_cons]
  omega

/-- A pair in front does not change the parity. -/
theorem backslashesAtEnd_pair (c : Char) (cs : List Char) :
    backslashesAtEnd ('\\' :: c :: cs) % 2 = backslashesAtEnd cs % 2 := by
  by_cases h : c = '\\'
  · subst h
    have hone : backslashesAtEnd ['\\'] = 1 := rfl
    have hle := backslashesAtEnd_le cs
    rw [backslashesAtEnd_cons, backslashesAtEnd_cons, hone, List.length_cons]
    by_cases hall : backslashesAtEnd cs = cs.length
    · rw [if_pos hall, if_pos rfl, hall]
      omega
    · rw [if_neg hall, if_neg]
      omega
  · rw [backslashesAtEnd_cons_cons_of_ne _ h, backslashesAtEnd_cons_of_ne h]

/-! ## Dropped backslashes -/

theorem dropEscapes_escape (cs : List Char) :
    dropEscapes ('\\' :: '$' :: '{' :: cs) = '$' :: dropEscapes ('{' :: cs) := by
  simp [dropEscapes]

theorem dropEscapes_cons {cs : List Char} (h : ¬ ['$', '{'] <+: cs) (c : Char) :
    dropEscapes (c :: cs) = c :: dropEscapes cs := by
  rw [dropEscapes, if_neg]
  rintro ⟨-, hcs⟩
  exact h hcs

/-- Without any `${` there is nothing to drop. -/
theorem dropEscapes_eq_self {cs : List Char}
    (h : ∀ before after, cs ≠ before ++ '$' :: '{' :: after) : dropEscapes cs = cs := by
  induction cs with
  | nil => rfl
  | cons c cs ih =>
    have hcs : ∀ before after, cs ≠ before ++ '$' :: '{' :: after := by
      intro before after heq
      exact h (c :: before) after (by rw [heq, List.cons_append])
    have hopen : ¬ ['$', '{'] <+: cs := by
      rintro ⟨after, hafter⟩
      exact hcs [] after hafter.symm
    rw [dropEscapes_cons hopen, ih hcs]

end Text

open Text

namespace Grammar

/-! ## Symbols of escaped texts -/

theorem Splits.opening_mem {cs : List Char} {us : List Symbol}
    (h : Splits ('$' :: '{' :: cs) us) : .opening ∈ us := by
  cases h with
  | opening => exact List.mem_cons_self
  | single _ unopened => exact absurd rfl (unopened rfl)

/-- A character by itself does not belong to the backslashes in front of a `${` after it. -/
theorem backslashesAtEnd_single {c : Char} {cs before after : List Char}
    (unpaired : c = '\\' → ∀ d ∈ cs.head?, Token.isQuotable d = false)
    (h : cs = before ++ '$' :: '{' :: after) :
    backslashesAtEnd (c :: before) = backslashesAtEnd before := by
  by_cases hc : c = '\\'
  · -- A backslash by itself has neither a `$` nor a backslash after it.
    have hquotable := unpaired hc
    cases before with
    | nil =>
      rw [h] at hquotable
      cases hquotable '$' rfl
    | cons d before =>
      rw [h] at hquotable
      have hd : d ≠ '\\' := by
        rintro rfl
        cases hquotable '\\' rfl
      exact backslashesAtEnd_cons_cons_of_ne c hd before
  · exact backslashesAtEnd_cons_of_ne hc before

/-- Without an opening among the symbols, every `${` of a text has its `$` in a pair. -/
theorem Splits.isEscaped {cs : List Char} {us : List Symbol} (h : Splits cs us)
    (hus : .opening ∉ us) : IsEscaped cs := by
  induction h with
  | nil =>
    intro before after heq
    simp at heq
  | @pair c cs us _ _ ih =>
    intro before after heq
    match before with
    | [] => cases heq
    | [_] =>
      cases heq
      rfl
    | _ :: _ :: before =>
      cases heq
      rw [backslashesAtEnd_pair]
      exact ih (fun hm => hus (List.mem_cons_of_mem _ hm)) before after rfl
  | opening => exact absurd List.mem_cons_self hus
  | @single c cs us unpaired unopened _ ih =>
    intro before after heq
    cases before with
    | nil =>
      cases heq
      exact absurd rfl (unopened rfl)
    | cons d before =>
      rw [List.cons_append, List.cons.injEq] at heq
      rcases heq with ⟨rfl, heq⟩
      rw [backslashesAtEnd_single unpaired heq]
      exact ih (fun hm => hus (List.mem_cons_of_mem _ hm)) before after heq

/-- An opening has an even number of backslashes in front of it. -/
theorem Splits.exists_opening {cs : List Char} {us : List Symbol} (h : Splits cs us)
    (hus : .opening ∈ us) :
    ∃ before after, cs = before ++ '$' :: '{' :: after ∧ backslashesAtEnd before % 2 = 0 := by
  induction h with
  | nil => cases hus
  | @pair c cs us _ _ ih =>
    rcases List.mem_cons.mp hus with heq | hus
    · cases heq
    · rcases ih hus with ⟨before, after, rfl, heven⟩
      exact ⟨'\\' :: c :: before, after, rfl, by rw [backslashesAtEnd_pair, heven]⟩
  | @opening cs us _ _ => exact ⟨[], cs, rfl, rfl⟩
  | @single c cs us unpaired _ _ ih =>
    rcases List.mem_cons.mp hus with heq | hus
    · cases heq
    · rcases ih hus with ⟨before, after, hcs, heven⟩
      refine ⟨c :: before, after, by rw [hcs, List.cons_append], ?_⟩
      rw [backslashesAtEnd_single unpaired hcs, heven]

/-- Exactly the escaped texts have no opening among their symbols. -/
theorem Splits.isEscaped_iff {cs : List Char} {us : List Symbol} (h : Splits cs us) :
    IsEscaped cs ↔ .opening ∉ us := by
  constructor
  · intro hcs hus
    rcases h.exists_opening hus with ⟨before, after, heq, heven⟩
    have hodd := hcs before after heq
    omega
  · exact h.isEscaped

/-! ## What escaped texts stand for -/

variable {registry : Registry} {config : EngineConfig}

theorem Splits.not_prefix_of_not_mem {cs : List Char} {us : List Symbol} (h : Splits cs us)
    (hus : .opening ∉ us) : ¬ ['$', '{'] <+: cs := by
  rintro ⟨after, rfl⟩
  exact hus h.opening_mem

theorem Splits.head?_of_single {cs : List Char} {us : List Symbol} {c : Char} (h : Splits cs us)
    (hus : us.head? = some (.single c)) : cs.head? = some c := by
  rcases List.head?_eq_some_iff.mp hus with ⟨vs, rfl⟩
  rw [← h.spelling_eq]
  rfl

open Expression in
/-- Without an opening, the symbols stand for plain text. -/
theorem Splits.exists_template {cs : List Char} {us : List Symbol} (h : Splits cs us)
    (hus : .opening ∉ us) (n : Nat) :
    ∃ ps, Template registry config n us ps ∧ allPlain ps = true ∧
      plainText ps = String.ofList (dropEscapes cs) := by
  induction h generalizing n with
  | nil => exact ⟨[], .nil, rfl, rfl⟩
  | @pair c cs us _ rest ih =>
    have hrest : .opening ∉ us := fun hm => hus (List.mem_cons_of_mem _ hm)
    by_cases hc : c = '$' ∧ cs.head? = some '{'
    · -- The backslash keeps a `${` from being an opening.
      rcases hc with ⟨rfl, hbrace⟩
      rcases List.head?_eq_some_iff.mp hbrace with ⟨ds, rfl⟩
      rcases ih hrest (n + 2) with ⟨ps, hps, hplain, htext⟩
      cases rest with
      | single =>
        refine ⟨plain ['$'] :: ps, .escape hps, hplain, ?_⟩
        rw [dropEscapes_escape, plain, plainText, htext, ← String.ofList_append,
          List.singleton_append]
    · have kept : c = '$' → us.head? ≠ some (.single '{') := by
        intro hd hhead
        exact hc ⟨hd, rest.head?_of_single hhead⟩
      have hopen : ¬ ['$', '{'] <+: c :: cs := by
        rintro ⟨after, hafter⟩
        cases hafter
        exact hc ⟨rfl, rfl⟩
      rcases ih hrest (n + 1 + c.utf8Size) with ⟨ps, hps, hplain, htext⟩
      refine ⟨plain ['\\', c] :: ps, .pair kept hps, hplain, ?_⟩
      rw [dropEscapes_cons hopen, dropEscapes_cons (rest.not_prefix_of_not_mem hrest), plain,
        plainText, htext, ← String.ofList_append, List.cons_append, List.singleton_append]
  | opening => exact absurd List.mem_cons_self hus
  | @single c cs us _ _ rest ih =>
    have hrest : .opening ∉ us := fun hm => hus (List.mem_cons_of_mem _ hm)
    rcases ih hrest (n + c.utf8Size) with ⟨ps, hps, hplain, htext⟩
    refine ⟨plain [c] :: ps, .single hps, hplain, ?_⟩
    rw [dropEscapes_cons (rest.not_prefix_of_not_mem hrest), plain, plainText, htext,
      ← String.ofList_append, List.singleton_append]

/-- Symbols that stand for plain text have no opening among them. -/
theorem Template.opening_not_mem {n : Nat} {us : List Symbol} {ps : List (Piece Routine)}
    (h : Template registry config n us ps) (hps : Expression.allPlain ps = true) :
    .opening ∉ us := by
  induction h with
  | nil => exact List.not_mem_nil
  | escape _ ih | pair _ _ ih | single _ ih =>
    have hus := ih hps
    simpa using hus
  | reference inner _ _ =>
    rw [Expression.allPlain_cons, inner.isDynamic] at hps
    cases hps

end Grammar

/-! ## Compilation -/

open Grammar in
/-- A text that stands for plain text is escaped. -/
theorem isEscaped_of_parse {registry : Registry} {config : EngineConfig} {text : String}
    {tree : Expression Routine} (h : parse registry config text = .ok tree)
    (hpure : tree.isPureLiteral = true) : IsEscaped text.toList := by
  rcases derives_of_parse h with ⟨us, ps, hs, ht, rfl⟩
  have hps : Expression.allPlain (mergeTexts ps) = true := hpure
  rw [Expression.allPlain_mergeTexts] at hps
  exact hs.isEscaped (ht.opening_not_mem hps)

open Grammar Expression in
/-- An escaped text stands for the plain text that is left when its escapes are dropped. -/
theorem exists_parse_of_isEscaped (registry : Registry) (config : EngineConfig) {text : String}
    (h : IsEscaped text.toList) :
    ∃ tree, parse registry config text = .ok tree ∧ tree.isPureLiteral = true ∧
      plainText tree.pieces = String.ofList (dropEscapes text.toList) := by
  rcases exists_splits text.toList with ⟨us, hs⟩
  obtain ⟨ps, ht, hplain, htext⟩ := hs.exists_template (hs.isEscaped_iff.mp h) 0
  refine ⟨_, parse_eq_of_derives ⟨us, ps, hs, ht, rfl⟩, ?_, ?_⟩
  · exact (allPlain_mergeTexts ps).trans hplain
  · exact (plainText_mergeTexts ps).trans htext

/-- An escaped text compiles to a pure literal, and so does no other text. Its value is the text
without the backslashes right before each `${`, at all times, which is the text itself if there is
no `${`. A text with an even number of backslashes in front of some `${` does not compile, or to an
expression with references. -/
theorem Engine.compile_escaped (engine : Engine) (text : String) (m : Machine) :
    ((∃ e, (engine.compile text m).1 = .ok e ∧ e.isPureLiteral = true) ↔
      IsEscaped text.toList) ∧
    (IsEscaped text.toList → ∃ e, (engine.compile text m).1 = .ok e ∧
      ∀ turns scene m', ((e.after turns).evaluate scene m').1 =
        String.ofList (dropEscapes text.toList)) ∧
    ((∀ before after, text.toList ≠ before ++ '$' :: '{' :: after) →
      ∃ e, (engine.compile text m).1 = .ok e ∧
        ∀ turns scene m', ((e.after turns).evaluate scene m').1 = text) ∧
    (∀ before after, text.toList = before ++ '$' :: '{' :: after →
      backslashesAtEnd before % 2 = 0 →
      (∃ error, (engine.compile text m).1 = .error error) ∨
        ∃ e, (engine.compile text m).1 = .ok e ∧ e.isPureLiteral = false) := by
  have hpure : ∀ e, (engine.compile text m).1 = .ok e → e.isPureLiteral = true →
      IsEscaped text.toList := by
    intro e he hpure
    rcases (Grammar.compile_eq_ok_iff_parse engine text m e).mp he with ⟨tree, hparse, rfl⟩
    rw [Expression.instantiate, Expression.isPureLiteral_relabel] at hpure
    exact isEscaped_of_parse hparse hpure
  have hliteral : IsEscaped text.toList → ∃ e, (engine.compile text m).1 = .ok e ∧
      e.isPureLiteral = true ∧ ∀ turns scene m', ((e.after turns).evaluate scene m').1 =
        String.ofList (dropEscapes text.toList) := by
    intro h
    rcases exists_parse_of_isEscaped engine.registry engine.config h with
      ⟨tree, hparse, hliteral, htext⟩
    have hsound : (tree.instantiate m.store).1.Sound := Expression.sound_relabel _ tree m.store
    have hpure : (tree.instantiate m.store).1.isPureLiteral = true :=
      (Expression.isPureLiteral_relabel _ tree m.store).trans hliteral
    refine ⟨_, (Engine.compile_eq_of_parse hparse m).1, hpure, ?_⟩
    intro turns scene m'
    rw [(Expression.evaluate_after hsound turns scene m').1,
      (Expression.evaluate_of_isPureLiteral hsound hpure scene m').1, ← htext]
    exact Expression.plainText_relabel _ tree m.store
  refine ⟨⟨?_, ?_⟩, ?_, ?_, ?_⟩
  · rintro ⟨e, he, hliteral⟩
    exact hpure e he hliteral
  · intro h
    rcases hliteral h with ⟨e, he, hliteral, -⟩
    exact ⟨e, he, hliteral⟩
  · intro h
    rcases hliteral h with ⟨e, he, -, hvalue⟩
    exact ⟨e, he, hvalue⟩
  · intro h
    have hescaped : IsEscaped text.toList := by
      intro before after heq
      exact absurd heq (h before after)
    rcases hliteral hescaped with ⟨e, he, -, hvalue⟩
    rw [dropEscapes_eq_self h, String.ofList_toList] at hvalue
    exact ⟨e, he, hvalue⟩
  · intro before after heq heven
    have hescaped : ¬ IsEscaped text.toList := by
      intro h
      have hodd := h before after heq
      omega
    cases he : (engine.compile text m).1 with
    | error error => exact Or.inl ⟨error, rfl⟩
    | ok e =>
      refine Or.inr ⟨e, rfl, ?_⟩
      cases hb : e.isPureLiteral with
      | false => rfl
      | true => exact absurd (hpure e he hb) hescaped

end TextTemplate
