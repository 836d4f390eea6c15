import TextTemplate.Proofs.CallCounts
import TextTemplate.Proofs.FormRoundTrip
import TextTemplate.Proofs.PlainText
import TextTemplate.Proofs.Renaming
import TextTemplate.Proofs.Rendering

/-!
# Decoding what was encoded

Of the routines for form encoding, one undoes what the other one does, and so does a template that
calls the one with a call of the other.

* `Grammar.Reference.inCall` derives a call whose only argument is a reference.
* `Routine.Maps` says that a routine answers arguments with a text, whatever its state is.
  `Expression.evaluate_of_maps`: a call of it contributes the text, whenever it is evaluated.
* `Library.urlDecode_urlEncode` has the round trip of all texts, and that of all values of a
  variable in a template.
-/

namespace TextTemplate

universe u

/-! ## References in calls -/

namespace Grammar

/-- The argument that is a reference. -/
def referenceArgument {α : Type u} (config : EngineConfig) (us : List Symbol) (p : Piece α) :
    Expression α :=
  ⟨String.ofList (spelling us), [p], Cache.fresh config.staticCaching⟩

variable {registry : Registry} {config : EngineConfig} {depth n : Nat} {us : List Symbol}
  {p : Piece Routine}

/-- A reference starts with its opening. -/
theorem Reference.exists_opening (h : Reference registry config depth n us p) :
    ∃ vs, us = .opening :: vs := by
  cases h <;> exact ⟨_, rfl⟩

theorem Reference.argument_eq (h : Reference registry config depth n us p) :
    argument config us [p] = referenceArgument config us p := by
  cases h <;> rfl

/-- A reference is the only argument of a call, one deeper than the call itself. -/
theorem Reference.inCall {name : List Char} {routine : Routine}
    (h : Reference registry config (depth + 1) (n + 2 + utf8Width name + 1) us p)
    (hdepth : depth ≤ config.maxNestingDepth) (hname : IsIdentifier name)
    (hknown : registry.lookup (String.ofList name) = some routine)
    (haccepts : routine.signature.accepts 1 = true) :
    Reference registry config depth n (callSymbols name us)
      (.call (String.ofList name) routine [referenceArgument config us p] n) := by
  have hargument : Argument registry config depth 0 (n + 2 + utf8Width name + 1) us [p] := by
    have hreference := Argument.reference h .nil
    rwa [List.append_nil] at hreference
  -- It is written with an opening at least, so that it is an argument.
  have hraw : (referenceArgument config us p).raw ≠ "" := by
    obtain ⟨vs, rfl⟩ := h.exists_opening
    intro hempty
    cases String.ofList_eq_empty_iff.mp hempty
  have harguments : callArguments [argument config us [p]] = [referenceArgument config us p] := by
    rw [h.argument_eq, callArguments, if_neg hraw]
  have hcall := Reference.call hdepth hname hknown (.last hargument)
    (harguments ▸ haccepts)
  rwa [harguments] at hcall

end Grammar

/-! ## Routines that answer with a text -/

/-- The routine answers these arguments with this text, whatever its state is and whatever else
there is. -/
def Routine.Maps (routine : Routine) (arguments : List String) (text : String) : Prop :=
  ∀ (call : Call) (state : routine.State), call.arguments = arguments →
    (routine.run call state).result = .ok text

/-- So does every instance of it. -/
theorem Machine.execute_of_maps {m : Machine} {id : InstanceId} {routine : Routine}
    {arguments : List String} {text : String} (hroutine : m.store.routine? id = some routine)
    (h : routine.Maps arguments text) (scene : Scene) :
    (m.execute scene id arguments).1 = .ok text := by
  obtain ⟨inst, hinst, rfl⟩ := Option.map_eq_some_iff.mp hroutine
  simp only [execute, hinst]
  exact h _ _ rfl

theorem Cache.text?_fresh (enabled : Bool) : (Cache.fresh enabled).text? = none := by
  cases enabled <;> rfl

/-- A call contributes the text that its routine answers the value of its argument with. -/
theorem Expression.evaluate_of_maps {scene : Scene} {m : Machine} {raw key : String}
    {callee : InstanceId} {argument : LiveExpression} {position : Nat} {cache : Cache}
    {routine : Routine} {value text : String} (hcache : cache.text? = none)
    (hvalue : (argument.evaluate scene m).1 = value)
    (hroutine : m.store.routine? callee = some routine) (h : routine.Maps [value] text) :
    (evaluate scene ⟨raw, [.call key callee [argument] position], cache⟩ m).1 = text := by
  -- The instance still drives its routine after the argument.
  have hevolves := evaluate_develops (Machine.development_evolves scene) argument m
    fun _ _ => trivial
  have hafter : (argument.evaluate scene m).2.2.store.routine? callee = some routine := by
    rw [hevolves.routines, hroutine]
  have hresult := Machine.execute_of_maps hafter h scene
  simp only [evaluate_of_unfilled _ _ _ hcache, evaluatePieces, evaluateArguments, hvalue, hresult,
    contribution, String.append_empty]

/-! ## The round trip -/

namespace Library

open Text.FormEncoding

theorem argument_of_arguments {call : Call} {s : String} (h : call.arguments = [s]) :
    call.argument 0 = s := by
  rw [Call.argument, h]
  rfl

theorem urlEncode_maps (s : String) : urlEncode.Maps [s] (encode s) := by
  intro call state hcall
  simp only [urlEncode, Routine.stateless, Call.reply, argument_of_arguments hcall]

theorem urlDecode_maps (s : String) : urlDecode.Maps [encode s] s := by
  intro call state hcall
  simp only [urlDecode, Routine.stateless, Call.reply, argument_of_arguments hcall, decode_encode]

end Library

namespace Grammar

/-- The text of a template that decodes the encoding of a variable. -/
def roundTripText (name : String) : String :=
  callText "__urldecode" (callText "__urlencode" (bareText name))

section Trees

variable {α : Type u} (config : EngineConfig) (name : String)

/-- The argument that is the variable, 28 octets into the text. -/
def variableArgument : Expression α :=
  referenceArgument config (bareSymbols name.toList) (.var name 28)

/-- The argument that is the encoding of the variable, 14 octets into the text. -/
def encodingArgument (encoder : α) : Expression α :=
  referenceArgument config (callSymbols "__urlencode".toList (bareSymbols name.toList))
    (.call "__urlencode" encoder [variableArgument config name] 14)

/-- The tree of the template, by what stands at its calls. -/
def roundTripTree (encoder decoder : α) : Expression α :=
  ⟨roundTripText name,
    [.call "__urldecode" decoder [encodingArgument config name encoder] 0],
    Cache.fresh config.staticCaching⟩

end Trees

theorem isIdentifier_urlEncode : IsIdentifier "__urlencode".toList := by
  simp [IsIdentifier, reserved]

theorem isIdentifier_urlDecode : IsIdentifier "__urldecode".toList := by
  simp [IsIdentifier, reserved]

open Library in
theorem parse_roundTripText {engine : Engine} {name : String}
    (hencode : engine.registry.lookup "__urlencode" = some urlEncode)
    (hdecode : engine.registry.lookup "__urldecode" = some urlDecode)
    (hname : IsIdentifier name.toList) (hfree : engine.registry.lookup name = none)
    (hdepth : 3 ≤ engine.config.maxNestingDepth) :
    parse engine.registry engine.config (roundTripText name) =
      .ok (roundTripTree engine.config name urlEncode urlDecode) := by
  have hfree' : engine.registry.lookup (String.ofList name.toList) = none := by
    rwa [String.ofList_toList]
  -- The references are derived from the inside out.
  have hvariable : Reference engine.registry engine.config 3 28 (bareSymbols name.toList)
      (.var (String.ofList name.toList) 28) :=
    .var hdepth hname hfree'
  rw [String.ofList_toList] at hvariable
  have hencoding : Reference engine.registry engine.config 2 14
      (callSymbols "__urlencode".toList (bareSymbols name.toList))
      (.call "__urlencode" urlEncode [variableArgument engine.config name] 14) :=
    hvariable.inCall (by omega) isIdentifier_urlEncode hencode rfl
  have hdecoding : Reference engine.registry engine.config 1 0 _
      (.call "__urldecode" urlDecode [encodingArgument engine.config name urlEncode] 0) :=
    hencoding.inCall (by omega) isIdentifier_urlDecode hdecode rfl
  have hsplits := splits_callText isIdentifier_urlDecode
    (splits_callText isIdentifier_urlEncode (splits_bareText hname))
  exact parse_reference hsplits hdecoding

section Instances

open Library

variable (config : EngineConfig) (name : String) (store : Store)

theorem create_second :
    ((store.create urlEncode).2.create urlDecode).1 = store.instances.size + 1 :=
  store.size_create urlEncode

/-- Once compiled, the template drives two new instances, that of the encoding before that of the
decoding. -/
theorem instantiate_roundTripTree :
    (roundTripTree config name urlEncode urlDecode).instantiate store =
      (roundTripTree config name store.instances.size (store.instances.size + 1),
        ((store.create urlEncode).2.create urlDecode).2) := by
  simp only [Expression.instantiate, roundTripTree, encodingArgument, variableArgument,
    referenceArgument, Expression.relabel, Expression.relabelPieces, Expression.relabelArguments,
    Cache.vacate_fresh, create_second]
  rfl

/-- These are instances of the two routines. -/
theorem routine?_create_create :
    ((store.create urlEncode).2.create urlDecode).2.routine? store.instances.size =
        some urlEncode ∧
      ((store.create urlEncode).2.create urlDecode).2.routine? (store.instances.size + 1) =
        some urlDecode := by
  constructor
  · rw [Store.routine?, Store.get?_create_of_lt _ _ (by simp)]
    exact congrArg (Option.map Instance.routine) (store.get?_create_self urlEncode)
  · rw [Store.routine?, ← create_second, Store.get?_create_self]
    rfl

end Instances

open Library in
/-- With instances of the two routines, the template stands for the value of its variable. -/
theorem evaluate_roundTripTree (config : EngineConfig) (name : String)
    {encoder decoder : InstanceId} {m : Machine}
    (hencode : m.store.routine? encoder = some urlEncode)
    (hdecode : m.store.routine? decoder = some urlDecode) (scene : Scene) :
    ((roundTripTree config name encoder decoder).evaluate scene m).1 =
      scene.context.valueOf name := by
  have hfresh := Cache.text?_fresh config.staticCaching
  have hvalue : ((variableArgument config name).evaluate scene m).1 =
      scene.context.valueOf name := by
    simp only [variableArgument, referenceArgument, Expression.evaluate_of_unfilled _ _ _ hfresh,
      Expression.evaluatePieces, String.append_empty]
  have hencoding : ((encodingArgument config name encoder).evaluate scene m).1 =
      Text.FormEncoding.encode (scene.context.valueOf name) :=
    Expression.evaluate_of_maps hfresh hvalue hencode (urlEncode_maps _)
  exact Expression.evaluate_of_maps hfresh hencoding hdecode (urlDecode_maps _)

end Grammar

/-- To render a text is to evaluate what it compiles to. -/
theorem Engine.render_of_compile {engine : Engine} {text : String} {m : Machine}
    {e : LiveExpression} (h : (engine.compile text m).1 = .ok e) (scene : Scene) :
    (engine.render text scene m).1 = .ok (e.evaluate scene (engine.compile text m).2).1 := by
  rcases hresult : engine.compile text m with ⟨result, m₁⟩
  rw [hresult] at h
  cases h
  simp only [render, hresult]

open Grammar in
/-- A template that decodes the encoding of a variable compiles, and stands for the value of the
variable whenever its instances drive the routines that they were created for. -/
theorem Engine.compile_roundTripText {engine : Engine} {name : String}
    (hencode : engine.registry.lookup "__urlencode" = some Library.urlEncode)
    (hdecode : engine.registry.lookup "__urldecode" = some Library.urlDecode)
    (hname : IsIdentifier name.toList) (hfree : engine.registry.lookup name = none)
    (hdepth : 3 ≤ engine.config.maxNestingDepth) (m : Machine) :
    ∃ e : LiveExpression, (engine.compile (roundTripText name) m).1 = .ok e ∧
      ∀ (turns : List (Scene × Machine)) (scene : Scene) (m' : Machine),
        (∀ id ∈ e.callees, m'.store.routine? id =
          (engine.compile (roundTripText name) m).2.store.routine? id) →
        ((e.after turns).evaluate scene m').1 = scene.context.valueOf name := by
  have hp := parse_roundTripText hencode hdecode hname hfree hdepth
  obtain ⟨hcompile, hstore⟩ := compile_eq_of_parse hp m
  have hsound : ((roundTripTree engine.config name Library.urlEncode
      Library.urlDecode).instantiate m.store).1.Sound :=
    Expression.sound_relabel _ _ m.store
  rw [instantiate_roundTripTree] at hcompile hstore hsound
  obtain ⟨hfirst, hsecond⟩ := routine?_create_create m.store
  refine ⟨_, hcompile, ?_⟩
  intro turns scene m' hm'
  have hcallees : (roundTripTree engine.config name m.store.instances.size
      (m.store.instances.size + 1)).callees =
        [m.store.instances.size, m.store.instances.size + 1] :=
    rfl
  rw [hstore, hcallees] at hm'
  rw [(Expression.evaluate_after hsound turns scene m').1]
  apply evaluate_roundTripTree
  · rw [hm' _ (by simp), hfirst]
  · rw [hm' _ (by simp), hsecond]

open Grammar Text Text.FormEncoding in
/-- Every text is read back from what the encoding routine answers it with, which is its percent
encoding with a `+` put for every `%20`, and is made of the characters of form encodings. A
template that decodes the encoding of a variable compiles, and stands for the value of the variable
when it is rendered, and in all later evaluations: whatever became of it and of the machine in
between, as long as its instances drive the same routines. -/
theorem Engine.urlDecode_urlEncode :
    (∀ s : String, ∃ written : String,
      written = String.ofList (plusForSpace (percentEncode s)) ∧ IsWritten written.toList ∧
      Library.urlEncode.Maps [s] written ∧ Library.urlDecode.Maps [written] s ∧
      Utf8.decode (percentDecode (Utf8.encode (String.ofList
        (written.toList.map spaceForPlus)))) = .ok s) ∧
    ∀ (engine : Engine) (name : String),
      engine.registry.lookup "__urlencode" = some Library.urlEncode →
      engine.registry.lookup "__urldecode" = some Library.urlDecode →
      IsIdentifier name.toList → engine.registry.lookup name = none →
      3 ≤ engine.config.maxNestingDepth →
      ∀ m : Machine, ∃ e : LiveExpression,
        (engine.compile (roundTripText name) m).1 = .ok e ∧
        (∀ scene, (engine.render (roundTripText name) scene m).1 =
          .ok (scene.context.valueOf name)) ∧
        ∀ (turns : List (Scene × Machine)) (scene : Scene) (m' : Machine),
          (∀ id ∈ e.callees, m'.store.routine? id =
            (engine.compile (roundTripText name) m).2.store.routine? id) →
          ((e.after turns).evaluate scene m').1 = scene.context.valueOf name := by
  constructor
  · intro s
    refine ⟨encode s, encode_eq_percentEncode s, isWritten_encode s, Library.urlEncode_maps s,
      Library.urlDecode_maps s, ?_⟩
    rw [← decode_eq_percentDecode, decode_encode]
  · intro engine name hencode hdecode hname hfree hdepth m
    obtain ⟨e, he, hlater⟩ := compile_roundTripText hencode hdecode hname hfree hdepth m
    refine ⟨e, he, ?_, hlater⟩
    intro scene
    -- What is rendered is the first of the evaluations.
    have hnow := hlater [] scene (engine.compile (roundTripText name) m).2 fun _ _ => rfl
    rw [render_of_compile he]
    exact congrArg Except.ok hnow

/-- An engine with the standard registry. -/
def standardEngine : Engine := { registry := Library.standardRegistry }

/-- A scene in which a variable is a text with signs that are replaced in form encodings. -/
def signsScene : Scene :=
  ⟨Context.set {} "x" "é %20+", ⟨⟨0, 0⟩, 0, fun _ => .error .notFound⟩⟩

open Grammar in
theorem Engine.urlDecode_urlEncode_signs :
    (standardEngine.render "$\x7b__urldecode($\x7b__urlencode($\x7bx\x7d)\x7d)\x7d" signsScene
      { entropy := ⟨0⟩ }).1 = .ok "é %20+" := by
  have hname : IsIdentifier "x".toList := by
    simp [IsIdentifier, reserved]
  obtain ⟨-, -, hrender, -⟩ := urlDecode_urlEncode.2 standardEngine "x" rfl rfl hname rfl
    (by decide) { entropy := ⟨0⟩ }
  exact hrender signsScene

end TextTemplate
