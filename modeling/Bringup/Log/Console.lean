import Bringup.Log.Context
import Bringup.Log.Entry
import Bringup.Log.JsonLine
import Bringup.Log.TextLine

/-!
# The console

* `Console` : the level of the root logger, the handler that writes lines, the level of the driver's
  loggers;
* `Console.setUp` : a console for the names of two levels and a form of lines;
* `Console.log` : the line that a call to a logger writes, if any;
* `Console.render` : the line of an entry of a run.

A record is made when its level is not below that of its logger, and written when it is not below that
of the handler either.  Credentials in its message are replaced before.  What goes wrong after that is not
raised by the call.
-/

namespace Bringup

/-- The form of lines: for readers, or JSON with or without the place where a record was made. -/
inductive LineForm where
  | text
  | json (source : Bool)
  deriving DecidableEq, Repr

/-- What writes lines: the least level and the form. -/
structure Handler where
  level : Int
  form : LineForm
  deriving DecidableEq, Repr

/-- The state of logging: level of the root logger, the handler if there is one, level of the driver's
loggers; the level zero means that of the root. -/
structure Console where
  rootLevel : Int
  handler : Option Handler
  driverLevel : Int
  deriving DecidableEq, Repr

/-- A record in a form. -/
def LineForm.line : LineForm → Record → Except Failure String
  | .text, r => TextFormat.standard.line r
  | .json source, r => r.jsonLine source

namespace Console

/-- Nothing has been set up: warnings and worse are noted, and nothing writes them. -/
def initial : Console := ⟨Level.warning.number, none, 0⟩

/-- The loggers of the driver. -/
def driverLoggers : List String :=
  ["pymongo", "pymongo.command", "pymongo.connection", "pymongo.serverSelection", "pymongo.topology"]

/-- A console for the names of two levels. -/
def setUp (logLevel : String) (jsonLines : Bool) (driverLevel : String) : Console :=
  let level := (Level.ofName logLevel).number
  { rootLevel := level
    handler := some
      { level
        form := if jsonLines then .json (level ≤ Level.debug.number) else .text }
    driverLevel := (Level.ofName driverLevel).number }

/-- What is said when a console has been set up. -/
def setUpEntry (logLevel : String) (jsonLines : Bool) : Entry :=
  ⟨.debug, LogNames.setup,
    s!"Logging configured: level={toUpper logLevel}, json={truthName jsonLines}", []⟩

/-- Whether a logger is the driver's or below it. -/
def isDriverLogger (name : String) : Bool :=
  name == "pymongo" || "pymongo.".toList.isPrefixOf name.toList

/-- The least level of records that a logger makes. -/
def loggerLevel (c : Console) (name : String) : Int :=
  if isDriverLogger name && c.driverLevel != 0 then c.driverLevel else c.rootLevel

/-- The line that a record is written as, if it is.  A failure of masking is one of the call; a record that
cannot be brought into the form of the handler is dropped. -/
def line? (c : Console) (level : Int) (r : Record) : Except Failure (Option String) :=
  match c.handler with
  | none => .ok none
  | some h =>
    if level < h.level then .ok none
    else r.masked.map fun masked => (h.form.line masked).toOption.map (· ++ "\n")

/-- The line that a call to a logger writes, if any; the first context is the outermost. -/
def log (c : Console) (name : String) (level : Int) (message : Value) (values : List Value)
    (contexts : List Fields) (options : Fields) (origin : Origin) :
    Except Failure (Option String) :=
  if level < c.loggerLevel name then .ok none
  else do
    let options ← Context.processAll contexts options
    let r ← Context.record name level message values options origin
    c.line? level r

/-- The line that an entry of a run is written as, if it is. -/
def render (c : Console) (origin : Origin) (e : Entry) : String :=
  let context : Fields := e.context.map fun (k, v) => (k, .str v)
  match c.log e.logger e.level.number (.str e.message) [] [context] [] origin with
  | .ok (some line) => line
  | _ => ""

end Console

end Bringup
