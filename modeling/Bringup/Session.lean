import Bringup.Failure.Taxonomy
import Bringup.Program
import Bringup.Provision
import Bringup.Settings.Basic
import Bringup.Uri

/-!
# Sessions

* `Session` : the settings of a server, and whether a client is open;
* `Settings.openClient` : opens a client and makes sure that the server answers;
* `SessionAct` : what is done with a session, a program that ends with the session after it, also where a
  failure is raised;
* `SessionAct.connect`, `SessionAct.close` : a client is kept, and given up;
* `Session.step` : one use of a session.

A client that was opened but does not answer is closed before the failure is raised, and it has not been
kept.  A client is given up on the way out of closing it, whether that succeeded or not.
-/

namespace Bringup

/-- The settings of a server, and whether a client for it is open. -/
structure Session where
  settings : Settings
  connected : Bool
  deriving DecidableEq, Repr

/-- An entry about a session. -/
def sessionEntry (level : Level) (message : String) : Entry :=
  ⟨level, LogNames.session, message, []⟩

namespace Settings

/-- The step in which a client is opened. -/
def connectStep : String := "connect"

/-- Ends the opening of a client because of a failure of the driver. -/
def abortConnect {α : Type} (e : Failure) : Program α :=
  let failure := e.classify (some connectStep)
  (Program.say (sessionEntry .error s!"MongoDB connection failed: {failure.bareMessage}")).bind fun _ =>
    .fail failure

/-- Asks the server for a sign of life. -/
def ping : Program Unit := do
  Program.perform (.database adminDatabase)
  let _ ← Program.perform (.command adminDatabase "ping" (.int 1) [])

/-- Opens a client that answers; one that does not is closed. -/
def openAnswering (s : Settings) : Program Unit := do
  let uri := s.connectionUri
  Program.say (sessionEntry .info
    (s!"Connecting to MongoDB at {Uri.masked uri} "
      ++ s!"(server selection timeout {s.selectionTimeout}ms)"))
  (Program.perform (.connect uri s.clientOptions)).rescue abortConnect
  ping.rescue fun e => do
    Program.perform .close
    abortConnect e

/-- Says that a client is open. -/
def sayConnected : Program Unit :=
  Program.say (sessionEntry .info "Successfully connected to MongoDB server")

/-- Opens a client and makes sure that the server answers. -/
def openClient (s : Settings) : Program Unit := do
  s.openAnswering
  sayConnected

end Settings

/-- Closes the open client. -/
def closeClient : Program Unit := do
  Program.perform .close
  Program.say (sessionEntry .debug "MongoDB connection closed")

namespace Session

/-- A session without a client. -/
def ofSettings (s : Settings) : Session := ⟨s, false⟩

/-- A session with a client that is open already. -/
def ofClient (s : Settings) : Session := ⟨s, true⟩

/-- The failure of using a session that has no client. -/
def notConnected : Failure :=
  .ofRuntime .state "MongoDB session is not connected. Call connect() first."

end Session

/-! ### What is done with a session -/

/-- What is done with a session.  It gives a value or raises a failure, and the session after it is what was
made of it until then, in either case. -/
def SessionAct (α : Type) : Type := Session → Program (Except Failure α × Session)

namespace SessionAct

variable {α β : Type}

/-- Goes on with the value and with the session after the first act. -/
protected def bind (x : SessionAct α) (f : α → SessionAct β) : SessionAct β := fun s =>
  (x s).bind fun
    | (.ok a, t) => f a t
    | (.error e, t) => .done (.error e, t)

instance : Monad SessionAct where
  pure a := fun s => .done (.ok a, s)
  bind := .bind

/-- A program that does not touch the session. -/
def ofProgram (p : Program α) : SessionAct α := fun s => p.attempt.bind fun r => .done (r, s)

instance : MonadLift Program SessionAct := ⟨ofProgram⟩

/-- Raises a failure. -/
def raise (e : Failure) : SessionAct α := fun s => .done (.error e, s)

/-- Ends with `last` in any case; a failure there takes the place of how the act ended. -/
def ensuring (x : SessionAct α) (last : SessionAct Unit) : SessionAct α := fun s =>
  (x s).bind fun
    | (r, t) => (last t).bind fun
      | (.ok _, u) => .done (r, u)
      | (.error e, u) => .done (.error e, u)

/-- The settings of the session. -/
def settings : SessionAct Settings := fun s => .done (.ok s.settings, s)

/-- Whether the session has a client. -/
def connected : SessionAct Bool := fun s => .done (.ok s.connected, s)

/-- From here on the session has a client, or none. -/
def setConnected (b : Bool) : SessionAct Unit := fun s => .done (.ok (), { s with connected := b })

/-- Opens a client and keeps it; one that is open is used again. -/
def connect : SessionAct Unit := do
  if ← connected then
    Program.say
      (sessionEntry .warning "MongoDB session already connected, reusing existing client")
  else
    (← settings).openAnswering
    setConnected true
    Settings.sayConnected

/-- Closes the client if there is one, and gives it up in any case. -/
def close : SessionAct Unit := do
  if ← connected then
    ensuring closeClient (setConnected false)

/-- Raises a failure where there is no client. -/
def needClient : SessionAct Unit := do
  unless ← connected do
    raise Session.notConnected

/-- Looks up a database. -/
def database (name : String) : SessionAct Unit := do
  needClient
  Program.perform (.database name)

/-- Runs a command against the database of users. -/
def adminCommand (name : String) (value : Value) (arguments : Fields) : SessionAct Value := do
  database adminDatabase
  Program.perform (.command adminDatabase name value arguments)

/-- The end of a guarded block that has raised a failure, or that gives what `x` does. -/
def leave (raised : Option Failure) (x : SessionAct α) : SessionAct α :=
  ensuring (raised.elim x raise) close

end SessionAct

/-! ### Uses of a session -/

/-- One use of a session.  A guarded block is entered, and it is left with or without a failure; `block` is
one that does nothing in between. -/
inductive SessionUse where
  | connect
  | close
  | client
  | database (name : String)
  | command (name : String) (value : Value) (arguments : Fields)
  | settings
  | enter
  | leave (raised : Option Failure)
  | block (raised : Option Failure)

/-- What a use of a session gives. -/
inductive SessionReply where
  | nothing
  | session
  | client
  | database (name : String)
  | answer (v : Value)
  | uri (text : String)
  | block (connected : Bool)

/-- What a use does, and what it gives. -/
def SessionUse.act : SessionUse → SessionAct SessionReply
  | .connect => do
    SessionAct.connect
    return .session
  | .close => do
    SessionAct.close
    return .nothing
  | .client => do
    SessionAct.needClient
    return .client
  | .database name => do
    SessionAct.database name
    return .database name
  | .command name value arguments => return .answer (← SessionAct.adminCommand name value arguments)
  | .settings => return .uri (← SessionAct.settings).connectionUri
  | .enter => return .session
  | .leave raised => SessionAct.leave raised (return .nothing)
  | .block raised => SessionAct.leave raised (return .block (← SessionAct.connected))

/-- One use of a session: what it gives or the failure it raises, and the session after it. -/
def Session.step (s : Session) (u : SessionUse) : Program (Except Failure SessionReply × Session) :=
  u.act s

end Bringup
