import TextTemplate.Routine
import TextTemplate.Text.Blank

/-!
# Lines of a file

`__StringFromFile` gives the lines of a file one after the other and starts over after the last.
The file is read when it is first asked for and again whenever another path is asked for in
between. An attempt that fails changes nothing.
-/

namespace TextTemplate.Library

/-- A file that has been read, and the index of the line that comes next. -/
structure OpenFile where
  path : Path
  lines : List String
  next : Nat
deriving DecidableEq, Repr

namespace OpenFile

/-- The line that comes next. -/
def line (file : OpenFile) : String := (file.lines[file.next % file.lines.length]?).getD ""

/-- The file after that line has been given. -/
def advance (file : OpenFile) : OpenFile :=
  { file with next := (file.next + 1) % file.lines.length }

end OpenFile

/-- Why no line can be given. -/
inductive LineError where
  | unreadable (path : String) (cause : FileError)
  | noLines (path : String)
deriving DecidableEq, Repr

/-- The wording of the error. -/
def LineError.message : LineError → String
  | .unreadable path cause => "cannot read '" ++ path ++ "': " ++ cause.message
  | .noLines path => "'" ++ path ++ "' is empty"

/-- What is logged about a file that has been read. -/
def loadedRecord (path : String) (lines : List String) : LogRecord :=
  ⟨.debug, "Loaded " ++ toString lines.length ++ " lines from " ++ path⟩

/-- Reads the file at a path. -/
def loadFile (world : World) (path : String) : Except LineError OpenFile :=
  match world.readText path with
  | .error e => .error (.unreadable path e)
  | .ok text =>
    match Text.lines text with
    | [] => .error (.noLines path)
    | lines => .ok { path := .ofString path, lines, next := 0 }

/-- The successive lines of a file. -/
def stringFromFile : Routine where
  signature := .ofParameters "__StringFromFile"
    [.required "path" "Text file to read lines from"]
  State := Option OpenFile
  initial := none
  run call state :=
    let path := Text.trim (call.argument 0)
    -- The file stays the one that was read first, whatever happens to it meanwhile.
    match state.filter (·.path = .ofString path) with
    | some file => call.reply (some file.advance) (.ok file.line)
    | none =>
      match loadFile call.scene.world path with
      | .ok file =>
        call.reply (some file.advance) (.ok file.line) [path] [loadedRecord path file.lines]
      | .error e =>
        call.reply state (.error (.resourceUnavailable "__StringFromFile" e.message)) [path]

end TextTemplate.Library
