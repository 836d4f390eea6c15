import Std.Time.DateTime.Timestamp
import TextTemplate.CommandLine

/-!
# Program

The command line program. It reads the clock and draws a seed once. The files that a run turns out
to need are read one by one: a run that meets a file which is not known yet is repeated once it
is, so that the run itself stays a function of what it is given. Local time is taken to be
universal time.
-/

namespace TextTemplate.Main

/-- The outcomes of reading files, by path. -/
abbrev Snapshot := List (String × Except FileError (List UInt8))

/-- The file error for the failure of an operation. -/
def fileErrorOf (code : UInt32) (description : String) : FileError :=
  if code = 2 then .notFound
  else if code = 20 then .notDirectory
  else if code = 21 then .isDirectory
  else if code = 36 then .nameTooLong
  else .system description code.toNat

/-- The file error for an exception. -/
def fileErrorOfException : IO.Error → FileError
  | .noFileOrDirectory _ code details | .permissionDenied _ code details
  | .inappropriateType _ code details | .invalidArgument _ code details
  | .resourceExhausted _ code details | .noSuchThing _ code details
  | .otherError code details => fileErrorOf code details
  | e => .system (toString e) 0

/-- Reads a file. -/
def readFile (path : String) : IO (Except FileError (List UInt8)) := do
  if path.toList.contains '\x00' then
    return .error .nulInName
  try
    let octets ← IO.FS.readBinFile path
    return .ok octets.toList
  catch e =>
    return .error (fileErrorOfException e)

/-- The world at a time, as far as its files are known. -/
def worldOf (now : Time.Instant) (snapshot : Snapshot) : World :=
  { now
    utcOffset := 0
    octetsAt := fun path => (snapshot.lookup path).getD (.error .notFound) }

/-- Runs the program until no file is missing. -/
partial def settle (now : Time.Instant) (entropy : Entropy) (arguments : List String)
    (snapshot : Snapshot) : IO CommandLine.Report := do
  let report := CommandLine.run (worldOf now snapshot) entropy arguments
  let missing? := (report.events.filterMap Event.path?).find? fun path =>
    (snapshot.lookup path).isNone
  match missing? with
  | none => return report
  | some path => settle now entropy arguments ((path, ← readFile path) :: snapshot)

/-- The current time. -/
def currentInstant : IO Time.Instant := do
  let elapsed := (← Std.Time.Timestamp.now).toNanosecondsSinceUnixEpoch.val
  return ⟨elapsed / 1000000000, (elapsed % 1000000000).toNat⟩

/-- A generator with a random seed. -/
def randomEntropy : IO Entropy := do
  let octets ← IO.getRandomBytes 8
  return ⟨octets.toList.foldl (fun seed octet => seed * 256 + octet.toUInt64) 0⟩

/-- The level that the log is written at. -/
def thresholdOf (arguments : List String) : Level :=
  if CommandLine.isVerbose arguments then .debug else .info

/-- Runs the program with the arguments of the command line. -/
def run (arguments : List String) : IO UInt32 := do
  let report ← settle (← currentInstant) (← randomEntropy) arguments []
  let records := report.events.filterMap Event.record?
  for record in LogRecord.select (some (thresholdOf arguments)) records do
    IO.eprintln ("[" ++ record.level.name ++ "] " ++ record.message)
  IO.print report.outcome.output
  IO.eprint report.outcome.errors
  return report.outcome.exitCode

end TextTemplate.Main

/-- Runs the program. -/
def main (arguments : List String) : IO UInt32 := TextTemplate.Main.run arguments
