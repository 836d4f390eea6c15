import TextTemplate.Proofs.Concatenation
import TextTemplate.Proofs.ErrorPositions

/-!
# Names that a text mentions

Compiling looks up no names but those that the text mentions: an identifier between an opening and
a brace or parenthesis.

* `Mentions` says that a name stands in a text in this way.
* `Reader.HasPlainName` is the invariant of reading that the name put together so far has the
  characters of identifiers only, kept by every step (`step_hasPlainName`). `Reader.InPlace` has
  the name right after its opening, so that a name that is looked up is mentioned.
* `Engine.compile_mentioned`: registries that agree on what a text mentions make the same of it.
-/

namespace TextTemplate

/-- A text has an opening, the name, and a brace or parenthesis, one right after the other. -/
def Mentions (text name : String) : Prop :=
  Grammar.IsIdentifier name.toList ∧
    ∃ offset, WrittenAt text offset ("$\x7b" ++ name ++ "\x7d") ∨
      WrittenAt text offset ("$\x7b" ++ name ++ "(")

/-! ## Changes of a registry -/

namespace Registry

/-- The key that a change of a registry binds. -/
def Change.key : Change → String
  | bind key _ => key
  | makeAlias key _ => key

/-- Other keys call what they did before a change. -/
theorem lookup_of_change {registry next : Registry} {change : Change}
    (h : registry.change change = .ok next) {name : String} (hn : change.key ≠ name) :
    next.lookup name = registry.lookup name := by
  cases change with
  | bind key routine =>
    have hkey : key ≠ name := hn
    rw [lookup_of_bind h, if_neg hkey]
  | makeAlias key target =>
    have hkey : key ≠ name := hn
    rw [lookup_of_makeAlias h, if_neg hkey]

/-- Other keys call what they did before several changes, whether or not all of them succeed. -/
theorem lookup_changeAll (registry : Registry) {changes : List Change} {name : String}
    (h : ∀ change ∈ changes, change.key ≠ name) :
    (registry.changeAll changes).registry.lookup name = registry.lookup name := by
  induction changes generalizing registry with
  | nil => rfl
  | cons change changes ih =>
    rcases List.forall_mem_cons.mp h with ⟨hn, hrest⟩
    unfold changeAll
    cases hc : registry.change change with
    | error e => rfl
    | ok next =>
      show (next.changeAll changes).registry.lookup name = registry.lookup name
      rw [ih next hrest, lookup_of_change hc hn]

end Registry

/-! ## The name that is being read -/

theorem Grammar.Symbol.token_eq_text {u : Symbol} {run : List Char} (h : u.token = .text run) :
    ∃ c, run = [c] ∧ Token.mark? c = none := by
  cases u with
  | pair c => cases h
  | opening => cases h
  | single c =>
    cases hm : Token.mark? c with
    | none =>
      simp only [token, hm, Option.getD_none, Token.text.injEq] at h
      exact ⟨c, h.symm, hm⟩
    | some t =>
      -- No character is a run of text by being a mark.
      simp only [token, hm, Option.getD_some] at h
      subst h
      unfold Token.mark? at hm
      split at hm <;> cases hm

namespace Reader

variable {registry registry' : Registry} {config : EngineConfig} {r r' : Reader} {t : Token}
  {n : Nat} {next : Option Token}

/-- The characters of a name that is being read can all be part of identifiers. -/
def HasPlainName (r : Reader) : Prop :=
  ∀ position name, r.mode = .naming position name → ∀ c ∈ name.toList, c ∉ Grammar.reserved

theorem hasPlainName_of_content (h : r.mode = .content) : r.HasPlainName := by
  intro position name hm
  rw [h] at hm
  cases hm

theorem supply_hasPlainName (r : Reader) (source : String) (piece : Piece Routine) :
    (r.supply source piece).HasPlainName := by
  apply hasPlainName_of_content
  unfold supply
  split <;> rfl

theorem openReference_hasPlainName {position : Nat}
    (h : r.openReference config position = .ok r') : r'.HasPlainName := by
  unfold openReference at h
  split at h
  · cases h
    rintro position' name ⟨⟩ c hc
    cases hc
  · cases h

theorem finishName_hasPlainName {position : Nat} {name : String}
    (h : r.finishName registry position name = .ok r') : r'.HasPlainName := by
  unfold finishName at h
  split at h
  · cases h
    exact supply_hasPlainName r _ _
  · split at h
    · cases h
    · cases h
      exact supply_hasPlainName r _ _

theorem openCall_hasPlainName {position paren : Nat} {name : String}
    (h : r.openCall registry position name paren = .ok r') : r'.HasPlainName := by
  unfold openCall at h
  split at h
  · cases h
  · cases h
    exact hasPlainName_of_content rfl

theorem finishArguments_hasPlainName {f : Frame} {fs : List Frame}
    (h : r.finishArguments config f fs = .ok r') : r'.HasPlainName := by
  simp only [finishArguments] at h
  split at h
  · cases h
  · cases h
    rintro position name ⟨⟩

/-- A character that has a place in a name can be part of identifiers. -/
theorem not_reserved_of_findForbidden? {c : Char} (hm : Token.mark? c = none)
    (hf : findForbidden? [c] = none) : c ∉ Grammar.reserved := by
  intro hc
  simp only [Grammar.reserved, List.mem_cons, List.not_mem_nil, or_false] at hc
  rcases hc with rfl | rfl | rfl | rfl | rfl | rfl | rfl
  · cases hf
  · cases hf
  · cases hm
  · cases hm
  · cases hm
  · cases hm
  · cases hf

theorem stepNaming_hasPlainName {position : Nat} {name : String}
    (ht : ∀ run, t = .text run → ∃ c, run = [c] ∧ Token.mark? c = none)
    (hn : ∀ c ∈ name.toList, c ∉ Grammar.reserved)
    (h : r.stepNaming registry position name ⟨n, t⟩ = .ok r') : r'.HasPlainName := by
  cases t with
  | text run =>
    rcases ht run rfl with ⟨c, rfl, hm⟩
    simp only [stepNaming] at h
    split at h
    · cases h
    · rename_i hf
      cases h
      rintro position' name' ⟨⟩ d hd
      rw [String.toList_append, String.toList_ofList, List.mem_append, List.mem_singleton] at hd
      rcases hd with hd | rfl
      · exact hn d hd
      · exact not_reserved_of_findForbidden? hm hf
  | leftParen =>
    simp only [stepNaming] at h
    split at h
    · cases h
    · exact openCall_hasPlainName h
  | rightBrace =>
    simp only [stepNaming] at h
    split at h
    · cases h
    · exact finishName_hasPlainName h
  | escaped | openReference | rightParen | comma => cases h

theorem stepClosing_hasPlainName {source : String} {piece : Piece Routine}
    (h : r.stepClosing source piece ⟨n, t⟩ = .ok r') : r'.HasPlainName := by
  unfold stepClosing at h
  split at h
  · cases h
    exact supply_hasPlainName r _ _
  · cases h

theorem stepArgument_hasPlainName {f : Frame} {fs : List Frame} (hr : r.mode = .content)
    (h : r.stepArgument config f fs ⟨n, t⟩ = .ok r') : r'.HasPlainName := by
  cases t with
  | comma =>
    cases hp : f.parens with
    | nil | cons =>
      simp only [stepArgument, hp] at h
      cases h
      exact hasPlainName_of_content hr
  | rightParen =>
    cases hp : f.parens with
    | nil =>
      simp only [stepArgument, hp] at h
      exact finishArguments_hasPlainName h
    | cons p parens =>
      simp only [stepArgument, hp] at h
      cases h
      exact hasPlainName_of_content hr
  | openReference => exact openReference_hasPlainName h
  | text | escaped | leftParen | rightBrace =>
    cases h
    exact hasPlainName_of_content hr

theorem stepOuter_hasPlainName (hr : r.mode = .content)
    (h : r.stepOuter config ⟨n, t⟩ next = .ok r') : r'.HasPlainName := by
  unfold stepOuter at h
  split at h
  · exact openReference_hasPlainName h
  · split at h
    · cases h
      exact hasPlainName_of_content hr
    · cases h
      exact hasPlainName_of_content hr
  · cases h
    exact hasPlainName_of_content hr

/-- The name of a reference gets no character that cannot be part of identifiers. -/
theorem step_hasPlainName (ht : ∀ run, t = .text run → ∃ c, run = [c] ∧ Token.mark? c = none)
    (hr : r.HasPlainName) (h : r.step registry config ⟨n, t⟩ next = .ok r') :
    r'.HasPlainName := by
  rcases r with ⟨outer, frames, mode⟩
  cases mode with
  | naming position name => exact stepNaming_hasPlainName ht (hr position name rfl) h
  | closing position source piece => exact stepClosing_hasPlainName h
  | content =>
    cases frames with
    | nil => exact stepOuter_hasPlainName rfl h
    | cons f fs => exact stepArgument_hasPlainName rfl h

/-! ## Two registries -/

/-- Registries that agree on the name that ends at a token take the same step. -/
theorem step_congr_registry {l : Lexeme}
    (h : ∀ position name, r.mode = .naming position name → name ≠ "" →
      l.token = .leftParen ∨ l.token = .rightBrace → registry.lookup name = registry'.lookup name) :
    r.step registry config l next = r.step registry' config l next := by
  rcases r with ⟨outer, frames, mode⟩
  cases mode with
  | closing => rfl
  | content => rfl
  | naming position name =>
    rcases l with ⟨n, t⟩
    cases t with
    | leftParen =>
      simp only [step, stepNaming]
      split
      · rfl
      · simp only [openCall, h position name rfl ‹_› (.inl rfl)]
    | rightBrace =>
      simp only [step, stepNaming]
      split
      · rfl
      · simp only [finishName, h position name rfl ‹_› (.inr rfl)]
    | text | escaped | openReference | rightParen | comma => rfl

end Reader

namespace Grammar

variable {registry registry' : Registry} {config : EngineConfig} {r : Reader} {done : String}

/-- A name that ends at a symbol is mentioned. -/
theorem mentions_of_inPlace {position : Nat} {name : String} {u : Symbol}
    (hr : r.InPlace done) (hn : r.HasPlainName) (hm : r.mode = .naming position name)
    (hne : name ≠ "") (hu : u.token = .leftParen ∨ u.token = .rightBrace) (rest : String) :
    Mentions (done ++ String.ofList u.written ++ rest) name := by
  have hplace := hr.mode
  rw [hm] at hplace
  rcases hplace with ⟨before, rfl, hposition⟩
  refine ⟨⟨?_, hn position name hm⟩, position, ?_⟩
  · simpa using hne
  · rw [← Symbol.source_token]
    rcases hu with hu | hu
    · rw [hu]
      exact .inr ⟨before, rest, by simp only [String.append_assoc]; rfl, hposition⟩
    · rw [hu]
      exact .inl ⟨before, rest, by simp only [String.append_assoc]; rfl, hposition⟩

/-- Registries that agree on what a text mentions read the rest of it alike, by induction on the
symbols that are left. -/
theorem read_congr_registry (us : List Symbol) (hr : r.InPlace done) (hn : r.HasPlainName)
    (h : ∀ name, Mentions (done ++ String.ofList (spelling us)) name →
      registry.lookup name = registry'.lookup name) :
    read registry config r done.utf8ByteSize us =
      read registry' config r done.utf8ByteSize us := by
  induction us generalizing r done with
  | nil => rfl
  | cons u us ih =>
    have hsplit : done ++ String.ofList (spelling (u :: us)) =
        done ++ String.ofList u.written ++ String.ofList (spelling us) := by
      rw [spelling_cons, String.ofList_append, String.append_assoc]
    rw [hsplit] at h
    have hstep : r.step registry config ⟨done.utf8ByteSize, u.token⟩ (us.head?.map Symbol.token) =
        r.step registry' config ⟨done.utf8ByteSize, u.token⟩ (us.head?.map Symbol.token) := by
      apply Reader.step_congr_registry
      intro position name hm hne hu
      exact h name (mentions_of_inPlace hr hn hm hne hu _)
    rw [read_cons, read_cons, ← hstep]
    cases hs : r.step registry config ⟨done.utf8ByteSize, u.token⟩ (us.head?.map Symbol.token) with
    | error e => rfl
    | ok next =>
      have hne : u.token.source ≠ [] := by
        rw [Symbol.source_token]
        cases u <;> simp [Symbol.written]
      have hlocated : Reader.Located (done ++ String.ofList u.token.source)
          (r.step registry config ⟨done.utf8ByteSize, u.token⟩ (us.head?.map Symbol.token)) :=
        Reader.step_located hne hr
      rw [hs, Symbol.source_token] at hlocated
      have hsize : done.utf8ByteSize + utf8Width u.written =
          (done ++ String.ofList u.written).utf8ByteSize := by
        rw [String.utf8ByteSize_append, utf8ByteSize_ofList]
      simp only [hsize]
      exact ih hlocated (Reader.step_hasPlainName (fun _ => Symbol.token_eq_text) hn hs) h

theorem parse_congr_registry {text : String}
    (h : ∀ name, Mentions text name → registry.lookup name = registry'.lookup name) :
    parse registry config text = parse registry' config text := by
  rcases exists_splits text.toList with ⟨us, hs⟩
  have hstart : Reader.InPlace "" {} := .outside "" {}
  have hread : read registry config {} 0 us = read registry' config {} 0 us := by
    apply read_congr_registry us hstart (Reader.hasPlainName_of_content rfl)
    rw [hs.spelling_eq, String.ofList_toList, String.empty_append]
    exact h
  rw [parse_eq_readAll hs, parse_eq_readAll hs, readAll, readAll, Reader.complete, Reader.complete]
  unfold read at hread
  rw [hread]

end Grammar

/-- Compiling reads a registry only at the names that the text mentions: two registries that agree on
them make the same of the text, be it a tree with its instances or an error. Changes of a registry
that bind other keys make no difference. -/
theorem Engine.compile_mentioned (config : EngineConfig) (text : String) :
    (∀ registry registry' : Registry,
      (∀ name, Mentions text name → registry.lookup name = registry'.lookup name) →
      Engine.compile { registry, config } text =
        Engine.compile { registry := registry', config } text) ∧
    ∀ (registry : Registry) (changes : List Registry.Change),
      (∀ change ∈ changes, ¬ Mentions text change.key) →
      Engine.compile { registry := (registry.changeAll changes).registry, config } text =
        Engine.compile { registry, config } text := by
  have hcongr : ∀ registry registry' : Registry,
      (∀ name, Mentions text name → registry.lookup name = registry'.lookup name) →
      Engine.compile { registry, config } text =
        Engine.compile { registry := registry', config } text := by
    intro registry registry' h
    funext m
    simp only [compile, Grammar.parse_congr_registry h]
  refine ⟨hcongr, ?_⟩
  intro registry changes hkeys
  apply hcongr
  intro name hname
  apply Registry.lookup_changeAll
  rintro change hm rfl
  exact hkeys change hm hname

theorem WrittenAt.isInfix {text part : String} {n : Nat} (h : WrittenAt text n part) :
    part.toList <:+: text.toList := by
  rcases h with ⟨before, after, rfl, -⟩
  refine ⟨before.toList, after.toList, ?_⟩
  simp only [String.toList_append]

/-- A call with a variable in its argument. -/
def tallyOfVariable : String := "a$\x7btally($\x7bv\x7d)\x7d"

theorem not_mentions_other : ¬ Mentions tallyOfVariable "other" := by
  -- The name has a character that the text does not have.
  have habsent : 'h' ∉ tallyOfVariable.toList := by decide
  rintro ⟨-, offset, h | h⟩
  · exact habsent (h.isInfix.subset (by decide))
  · exact habsent (h.isInfix.subset (by decide))

open Session in
theorem Engine.compile_mentioned_tallyOfVariable :
    let aliased := (tallyEngine.registry.changeAll [.makeAlias "other" "tally"]).registry
    let bound := (tallyEngine.registry.changeAll [.bind "other" Library.Samples.upper]).registry
    (aliased.lookup "other").isSome = true ∧ (tallyEngine.registry.lookup "other").isSome = false ∧
      Engine.compile { registry := aliased } tallyOfVariable =
        tallyEngine.compile tallyOfVariable ∧
      Engine.compile { registry := bound } tallyOfVariable =
        tallyEngine.compile tallyOfVariable := by
  intro aliased bound
  have h := compile_mentioned {} tallyOfVariable
  have hagree : ∀ name, Mentions tallyOfVariable name →
      aliased.lookup name = tallyEngine.registry.lookup name := by
    intro name hname
    apply Registry.lookup_changeAll
    rintro change hm rfl
    rw [List.mem_singleton.mp hm] at hname
    exact not_mentions_other hname
  have hkeys : ∀ change ∈ [Registry.Change.bind "other" Library.Samples.upper],
      ¬ Mentions tallyOfVariable change.key :=
    List.forall_mem_singleton.mpr not_mentions_other
  exact ⟨rfl, rfl, h.1 aliased tallyEngine.registry hagree, h.2 tallyEngine.registry _ hkeys⟩

end TextTemplate
