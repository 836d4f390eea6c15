import TextTemplate.Library
import TextTemplate.Proofs.MachineRuns

/-!
# Reading files line by line

What one instance of `__StringFromFile` gives, whatever it is called with and whatever happens to
the files between its calls.

* `Library.lastLoad` is the last call that read a file and gave a line, and how many lines were
  given since; it goes by what can be seen of the replies. `Library.Remembers` says that the state
  of an instance is what follows from it (`Library.remembers_exchanges`).
* `Library.stringFromFile_exchanges`: the next reply follows from the last load, and from the file
  at the path that is asked for.
-/

namespace TextTemplate

namespace Library

/-! ## One call -/

/-- The path that a call asks for, as it is written. -/
@[irreducible]
def askedPath (call : Call) : String := Text.trim (call.argument 0)

/-- The lines of the file at the path that a call asks for, at the time of the call. -/
def linesAt (call : Call) : Except FileError (List String) :=
  (call.scene.world.readText (askedPath call)).map Text.lines

/-- The file at the path that a call asks for, as far as lines can be given of it. -/
theorem loadFile_askedPath (call : Call) :
    loadFile call.scene.world (askedPath call) =
      match linesAt call with
      | .error cause => .error (.unreadable (askedPath call) cause)
      | .ok [] => .error (.noLines (askedPath call))
      | .ok (first :: rest) => .ok ⟨.ofString (askedPath call), first :: rest, 0⟩ := by
  unfold loadFile linesAt
  cases call.scene.world.readText (askedPath call) with
  | error cause => rfl
  | ok text =>
    simp only [Except.map]
    cases Text.lines text with
    | nil => rfl
    | cons first rest => rfl

theorem run_stringFromFile (call : Call) (state : Option OpenFile) :
    stringFromFile.run call state =
      match state.filter (fun file => file.path = .ofString (askedPath call)) with
      | some file => call.reply (some file.advance) (.ok file.line)
      | none =>
        match loadFile call.scene.world (askedPath call) with
        | .ok file =>
          call.reply (some file.advance) (.ok file.line) [askedPath call]
            [loadedRecord (askedPath call) file.lines]
        | .error e =>
          call.reply state (.error (.resourceUnavailable "__StringFromFile" e.message))
            [askedPath call] := by
  unfold askedPath
  rfl

section Calls

variable {call : Call}

/-- A call with the path of the file that has been read. -/
theorem run_samePath {file : OpenFile} (h : file.path = .ofString (askedPath call)) :
    stringFromFile.run call (some file) = call.reply (some file.advance) (.ok file.line) := by
  have hfilter : (some file).filter (fun file => file.path = .ofString (askedPath call)) =
      some file := Option.filter_some_pos (decide_eq_true h)
  rw [run_stringFromFile, hfilter]
  rfl

variable {state : Option OpenFile}

/-- A call with another path reads the file there. -/
theorem run_otherPath (h : ∀ file, state = some file → file.path ≠ .ofString (askedPath call)) :
    stringFromFile.run call state =
      match linesAt call with
      | .error cause =>
        call.reply state
          (.error (.resourceUnavailable "__StringFromFile"
            (LineError.unreadable (askedPath call) cause).message)) [askedPath call]
      | .ok [] =>
        call.reply state
          (.error (.resourceUnavailable "__StringFromFile"
            (LineError.noLines (askedPath call)).message)) [askedPath call]
      | .ok (first :: rest) =>
        call.reply
          (some ⟨.ofString (askedPath call), first :: rest, 1 % (first :: rest).length⟩)
          (.ok first) [askedPath call] [loadedRecord (askedPath call) (first :: rest)] := by
  have hfilter : state.filter (fun file => file.path = .ofString (askedPath call)) = none := by
    cases state with
    | none => rfl
    | some file => exact Option.filter_some_neg (decide_eq_false (h file rfl))
  rw [run_stringFromFile, hfilter, loadFile_askedPath]
  cases hlines : linesAt call with
  | error cause => rfl
  | ok lines =>
    cases lines with
    | nil => rfl
    | cons first rest =>
      have hline : OpenFile.line ⟨.ofString (askedPath call), first :: rest, 0⟩ = first := by
        simp [OpenFile.line]
      simp only [hline, OpenFile.advance]

end Calls

/-! ## The last load -/

/-- A call that read a file and gave a line of it, and the number of lines given since, the first
one counted. -/
structure Load where
  call : Call
  given : Nat

/-- The last load after one more reply: an error makes no difference, a line that was given
without reading goes on, and a line that was given after reading starts. -/
def Load.after (last : Option Load) (x : stringFromFile.Exchange) : Option Load :=
  match x.reply.result, x.reply.reads with
  | .error _, _ => last
  | .ok _, [] => last.map fun load => { load with given := load.given + 1 }
  | .ok _, _ :: _ => some ⟨x.call, 1⟩

/-- The last load in some exchanges. -/
def lastLoad (exchanges : List stringFromFile.Exchange) : Option Load :=
  exchanges.foldl Load.after none

/-- An open file is what a load has read, up to the lines given since. -/
structure Load.Describes (load : Load) (file : OpenFile) : Prop where
  path : file.path = .ofString (askedPath load.call)
  lines : linesAt load.call = .ok file.lines
  ne_nil : file.lines ≠ []
  next : file.next = load.given % file.lines.length

/-- The state is what follows from the last load. -/
inductive Remembers : Option OpenFile → Option Load → Prop where
  | nothing : Remembers none none
  | file {file : OpenFile} {load : Load} (h : load.Describes file) :
    Remembers (some file) (some load)

/-- The line that comes next, after some have been given. -/
theorem Load.Describes.getElem?_given {load : Load} {file : OpenFile} (h : load.Describes file) :
    file.lines[load.given % file.lines.length]? = some file.line := by
  have hlength : 0 < file.lines.length := List.length_pos_iff.mpr h.ne_nil
  have hlt : load.given % file.lines.length < file.lines.length := Nat.mod_lt _ hlength
  rw [OpenFile.line, h.next, Nat.mod_mod, List.getElem?_eq_getElem hlt, Option.getD_some]

theorem Load.Describes.advance {load : Load} {file : OpenFile} (h : load.Describes file) :
    Load.Describes { load with given := load.given + 1 } file.advance where
  path := h.path
  lines := h.lines
  ne_nil := h.ne_nil
  next := by
    rw [OpenFile.advance, h.next, Nat.mod_add_mod]

/-- The state after a call is what follows from the last load, too. -/
theorem remembers_run {state : Option OpenFile} {last : Option Load} (h : Remembers state last)
    (call : Call) :
    Remembers (stringFromFile.run call state).state
      (Load.after last ⟨call, stringFromFile.run call state⟩) := by
  by_cases hpath : ∃ file, state = some file ∧ file.path = .ofString (askedPath call)
  · obtain ⟨file, rfl, hpath⟩ := hpath
    cases h with
    | file hdescribes =>
      rw [run_samePath hpath]
      exact .file hdescribes.advance
  · have hother : ∀ file, state = some file → file.path ≠ .ofString (askedPath call) :=
      fun file hs heq => hpath ⟨file, hs, heq⟩
    rw [run_otherPath hother]
    cases hlines : linesAt call with
    | error cause => exact h
    | ok lines =>
      cases lines with
      | nil => exact h
      | cons first rest =>
        have hload : Load.Describes ⟨call, 1⟩
            ⟨.ofString (askedPath call), first :: rest, 1 % (first :: rest).length⟩ :=
          ⟨rfl, hlines, List.cons_ne_nil first rest, rfl⟩
        exact .file hload

/-- After any calls of an instance, its state is what follows from the last load. -/
theorem remembers_exchanges (calls : List Call) :
    Remembers (stringFromFile.exchanges none calls).2
      (lastLoad (stringFromFile.exchanges none calls).1) := by
  suffices h : ∀ (state : Option OpenFile) (last : Option Load), Remembers state last →
      Remembers (stringFromFile.exchanges state calls).2
        ((stringFromFile.exchanges state calls).1.foldl Load.after last) from h none none .nothing
  induction calls with
  | nil => exact fun _ _ h => h
  | cons call calls ih =>
    intro state last h
    exact ih _ _ (remembers_run h call)

theorem exists_file_of_remembers {state : Option OpenFile} {last : Option Load} {load : Load}
    (h : Remembers state last) (hload : last = some load) :
    ∃ file, state = some file ∧ load.Describes file := by
  subst hload
  cases h with
  | file hdescribes => exact ⟨_, rfl, hdescribes⟩

theorem exists_load_of_remembers {state : Option OpenFile} {last : Option Load} {file : OpenFile}
    (h : Remembers state last) (hfile : state = some file) :
    ∃ load, last = some load ∧ load.Describes file := by
  subst hfile
  cases h with
  | file hdescribes => exact ⟨_, rfl, hdescribes⟩

/-- A file that an instance holds has lines, and one of them comes next. -/
theorem next_lt_of_remembers {file : OpenFile} {last : Option Load}
    (h : Remembers (some file) last) : file.lines ≠ [] ∧ file.next < file.lines.length := by
  cases h with
  | file hdescribes =>
    refine ⟨hdescribes.ne_nil, ?_⟩
    rw [hdescribes.next]
    exact Nat.mod_lt _ (List.length_pos_iff.mpr hdescribes.ne_nil)

/-! ## What the next call gives -/

/-- Whatever an instance of `__StringFromFile` has been called with, and whatever the files held
at the time: a file that it holds has lines, and one of them comes next. A call with the path of
the last load gives the next line of those that were read then, starting over after the last, and
reads nothing. A call with another path reads the file there. It gives the first line, so that the
second comes next; where no line can be read, it is an error and changes nothing. -/
theorem stringFromFile_exchanges (calls : List Call) (call : Call) :
    let past := (stringFromFile.exchanges none calls).1
    let state : Option OpenFile := (stringFromFile.exchanges none calls).2
    let reply := stringFromFile.run call state
    let samePath := fun load : Load =>
      Path.ofString (askedPath load.call) = Path.ofString (askedPath call)
    let failed := fun e : LineError =>
      reply.result = .error (.resourceUnavailable "__StringFromFile" e.message) ∧
        reply.state = state
    (∀ file, state = some file → file.lines ≠ [] ∧ file.next < file.lines.length) ∧
      (∀ load, lastLoad past = some load → samePath load →
        ∃ lines line, linesAt load.call = .ok lines ∧
          lines[load.given % lines.length]? = some line ∧
          reply.result = .ok line ∧ reply.reads = []) ∧
      ((∀ load, lastLoad past = some load → ¬ samePath load) →
        reply.reads = [askedPath call] ∧
          match linesAt call with
          | .ok (first :: rest) =>
            reply.result = .ok first ∧
              reply.state =
                some ⟨.ofString (askedPath call), first :: rest, 1 % (first :: rest).length⟩
          | .ok [] => failed (.noLines (askedPath call))
          | .error cause => failed (.unreadable (askedPath call) cause)) := by
  intro past state reply samePath failed
  have hremembers : Remembers state (lastLoad past) := remembers_exchanges calls
  refine ⟨?_, ?_, ?_⟩
  · intro file hfile
    rw [hfile] at hremembers
    exact next_lt_of_remembers hremembers
  · intro load hload hsame
    obtain ⟨file, hfile, hdescribes⟩ := exists_file_of_remembers hremembers hload
    have hreply : reply = call.reply (some file.advance) (.ok file.line) := by
      have hpath : file.path = .ofString (askedPath call) := hdescribes.path.trans hsame
      rw [← run_samePath hpath, ← hfile]
    rw [hreply]
    exact ⟨file.lines, file.line, hdescribes.lines, hdescribes.getElem?_given, rfl, rfl⟩
  · intro hother
    have hpath : ∀ file, state = some file → file.path ≠ .ofString (askedPath call) := by
      intro file hfile heq
      obtain ⟨load, hload, hdescribes⟩ := exists_load_of_remembers hremembers hfile
      exact hother load hload (hdescribes.path.symm.trans heq)
    have hreply := run_otherPath hpath
    -- There is no file, one without lines, or one with lines.
    rcases hlines : linesAt call with cause | (_ | ⟨first, rest⟩)
    all_goals
      rw [hlines] at hreply
      exact ⟨congrArg Reply.reads hreply, congrArg Reply.result hreply,
        congrArg Reply.state hreply⟩

end Library

/-- In a machine, too, a file that an instance holds has lines, and one of them comes next. -/
theorem Machine.next_lt_of_playAll (entropy : Entropy) (moves : List Move) {id : InstanceId}
    {file : Library.OpenFile} {family : Nat}
    (h : (playAll { entropy } moves).2.store.get? id =
      some ⟨Library.stringFromFile, some file, family⟩) :
    file.lines ≠ [] ∧ file.next < file.lines.length := by
  have hstart : Machine.Reachable { entropy } := fun _ _ h => absurd h (by simp [Store.get?])
  have hreachable : Library.stringFromFile.Reachable (some file) :=
    reachable_playAll hstart moves id _ h
  obtain ⟨calls, hcalls⟩ := hreachable
  have hremembers := Library.remembers_exchanges calls
  rw [show (Library.stringFromFile.exchanges none calls).2 = some file from hcalls] at hremembers
  exact Library.next_lt_of_remembers hremembers

end TextTemplate
