import Bringup.CommandLine.Options
import Bringup.Log.Console
import Bringup.SeedFile
import Bringup.Session
import Bringup.Settings.Check
import Bringup.Verification

/-!
# Invocations of the command line

* `Host` : what an invocation finds: sources of settings, files, and the clock;
* `Options.run` : brings a database up by options and settings, and verifies it if that is asked for;
* `Invocation`, `Invocation.ofWords` : what a command line leads to: words about its use, a complaint
  about the settings, or a program behind a console;
* `Transcript` : what such a program wrote.

The completion message is the last thing that a successful run writes.
-/

namespace Bringup

/-- What an invocation finds: sources of settings, files by path, and what the clock shows. -/
structure Host where
  sources : Settings.Sources
  file : String → Except FileFault (List UInt8)
  now : Instant

/-- How an invocation ends. -/
inductive ExitCode where
  | ok
  | failure
  | interrupted
  deriving DecidableEq, Repr

namespace ExitCode

/-- The number of an exit code. -/
def number : ExitCode → Nat
  | .ok => 0
  | .failure => 1
  | .interrupted => 130

end ExitCode

/-- The message that ends a successful run. -/
def completionMessage : String := "MongoDB initialization completed successfully\n"

/-- The message about the problems that a verification found. -/
def problemsMessage (count : Nat) : String := s!"\nVerification failed with {count} problem(s)\n"

/-- The message that ends an interrupted run. -/
def interruptedMessage : String := "\n\nInitialization interrupted by user.\n"

/-- The message that ends a failed run. -/
def failureMessage (e : Failure) : String := s!"MongoDB initialization failed: {e.text}\n"

/-- The message about settings that are refused. -/
def settingsMessage (c : Complaint) : String := s!"Invalid configuration: {c.headline}\n"

namespace Options

/-- The specification of a run: from the seed file, or the built-in one for the settings. -/
def spec (o : Options) (settings : Settings) (host : Host) : Except Failure SeedSpec :=
  match o.seedFile with
  | some path => SeedFile.read path (host.file path)
  | Option.none =>
    match SeedSpec.ofSettings settings with
    | .ok spec => .ok spec
    | .error c => .error (.invalid c)

/-- What a run shall make exist. -/
def plan (o : Options) (settings : Settings) (spec : SeedSpec) : Plan :=
  ⟨spec, o.seedPolicy.getD settings.seedPolicy, o.skipPrincipal, o.skipSeed⟩

/-- Verifies the database if that is asked for; whether no problem was found. -/
def check (o : Options) (spec : SeedSpec) : Program Bool :=
  if o.verify then do
    let found ← spec.verify
    if found.ok then return true
    else do
      Program.complain (problemsMessage found.problems.length)
      return false
  else return true

/-- Brings the database up and verifies it; whether no problem was found. -/
def work (o : Options) (settings : Settings) (spec : SeedSpec) (now : Instant) : Program Bool := do
  let report ← (o.plan settings spec).provision now
  Program.say ⟨.info, LogNames.commandLine,
    s!"Operations summary: {report.summary} duration={report.durationText 2}s", []⟩
  o.check spec

/-- Brings a database up by options and settings. -/
def run (o : Options) (settings : Settings) (host : Host) : Program ExitCode := do
  let spec ← Program.ofExcept (o.spec settings host)
  settings.openClient
  let sound ← (o.work settings spec host.now).ensuring closeClient
  if sound then do
    Program.print completionMessage
    return .ok
  else return .failure

/-- Ends a run that failed, where the failure is one that is told rather than raised. -/
def conclude (e : Failure) : Program ExitCode :=
  match e with
  | .provision .. => do
    Program.complain (failureMessage e)
    return .failure
  | .runtime .interrupt _ _ => do
    Program.complain interruptedMessage
    return .interrupted
  | e => .fail e

/-- The console of a run. -/
def console (o : Options) (settings : Settings) : Console :=
  let level := if o.verbose then "DEBUG" else settings.logLevel.name
  Console.setUp level (o.jsonLogs || settings.jsonLogs) "WARNING"

/-- What is said when the console has been set up. -/
def consoleEntry (o : Options) (settings : Settings) : Entry :=
  let level := if o.verbose then "DEBUG" else settings.logLevel.name
  Console.setUpEntry level (o.jsonLogs || settings.jsonLogs)

/-- The whole run: failures of the taxonomy and interruptions are told, all others are raised. -/
def main (o : Options) (settings : Settings) (host : Host) : Program ExitCode := do
  Program.say (o.consoleEntry settings)
  (o.run settings host).attempt.bind fun
    | .ok code => .done code
    | .error e => conclude e

end Options

/-- What a command line leads to. -/
inductive Invocation where
  | usage (halt : Halt)
  | misconfigured (c : Complaint)
  | running (console : Console) (program : Program ExitCode)

namespace Invocation

/-- What words lead to. -/
def ofWords (words : List String) (host : Host) : Invocation :=
  match Options.parse words with
  | .error halt => .usage halt
  | .ok o =>
    match Settings.load host.sources with
    | .error c => .misconfigured c
    | .ok settings => .running (o.console settings) (o.main settings host)

/-- Ends a run whose settings are refused, before anything is set up. -/
def refuse (c : Complaint) : Program ExitCode := do
  Program.complain (settingsMessage c)
  return .failure

end Invocation

/-- What was written: to the output, and to the error output. -/
structure Transcript where
  output : String
  error : String
  deriving DecidableEq, Repr

namespace Transcript

/-- What a remark writes. -/
def ofRemark (console : Console) (origin : Origin) : Remark → Transcript
  | .log entry => ⟨console.render origin entry, ""⟩
  | .output text => ⟨text, ""⟩
  | .error text => ⟨"", text⟩

/-- What remarks write one after the other. -/
def ofRemarks (console : Console) (origin : Origin) (remarks : List Remark) : Transcript :=
  let parts := remarks.map (ofRemark console origin)
  ⟨String.join (parts.map output), String.join (parts.map error)⟩

end Transcript

end Bringup
