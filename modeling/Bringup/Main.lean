import Bringup.CommandLine.Invocation
import Std.Time.DateTime.Timestamp

/-!
# The program

A rehearsal of a run: the options, the settings and the seed file are those of a real one, and the server
is an empty one in memory.  What the run says is written, and its exit code is the program's.
-/

namespace Bringup.Rehearsal

/-- The settings file in the folder where the program starts. -/
def settingsFile : String := ".env"

/-- Why a file could not be read. -/
def fileFault : IO.Error → FileFault
  | .inappropriateType _ code _ => if code = 21 then .isFolder else .notAFolder
  | _ => .missing

/-- The bytes of a file, or why there are none. -/
def fileBytes (path : String) : IO (Except FileFault (List UInt8)) := do
  try
    return .ok (← IO.FS.readBinFile path).toList
  catch e => return .error (fileFault e)

/-- The text of the settings file; empty if there is none that can be read. -/
def settingsText : IO String := do
  match ← fileBytes settingsFile with
  | .ok bytes =>
    return match decodeUtf8 bytes with
      | .ok cs => String.ofList (normalizeNewlines cs)
      | .error _ => ""
  | .error _ => return ""

/-- The variables of the environment that name settings. -/
def environment : IO (List (String × String)) := do
  let found ← (Settings.names ++ Settings.names.map toUpper).mapM fun name => do
    return (← IO.getEnv name).map fun value => (name, value)
  return found.reduceOption

/-- What the clock shows. -/
def clock : IO Instant := do
  let elapsed ← Std.Time.Timestamp.now
  return ⟨elapsed.toNanosecondsSinceUnixEpoch.val / 1000, some 0⟩

/-- What the run finds on this machine: its sources of settings, the one file that the options name, and
the time. -/
def host (words : List String) : IO Host := do
  let sources : Settings.Sources := ⟨[], ← environment, ← settingsText⟩
  let path := match Options.parse words with
    | .ok o => o.seedFile
    | .error _ => none
  let content ← match path with
    | some path => fileBytes path
    | none => pure (.error .missing)
  return ⟨sources, fun _ => content, ← clock⟩

/-- Where and when the records of a run are made. -/
def origin (now : Instant) : Origin :=
  ⟨"rehearsal", 0, none, .float (.ofRatio (now.micros < 0) now.micros.natAbs 1000000)⟩

/-- Writes what a run said and gives its exit code; a failure that no run tells ends it as a failed
one. -/
def finish (console : Console) (now : Instant) (run : Run ExitCode) : IO UInt32 := do
  let written := Transcript.ofRemarks console (origin now) run.remarks
  IO.print written.output
  IO.eprint written.error
  match run.result with
  | .ok code => return UInt32.ofNat code.number
  | .error e => do
    IO.eprintln s!"{e.name}: {e.text}"
    return UInt32.ofNat ExitCode.failure.number

end Bringup.Rehearsal

open Bringup in
/-- Rehearses the run that the words ask for. -/
def main (words : List String) : IO UInt32 := do
  let host ← Rehearsal.host words
  match Invocation.ofWords words host with
  | .usage .help => do
    IO.println ("switches: " ++ " ".intercalate (Switch.spellings.map Prod.fst))
    return 0
  | .usage (.usage fault) => do
    IO.eprintln s!"gin-provision: error: {fault.message}"
    return 2
  | .misconfigured complaint =>
    Rehearsal.finish .initial host.now ((Invocation.refuse complaint).run .clear .empty [])
  | .running console program =>
    Rehearsal.finish console host.now (program.run .clear .empty [])
