import Bringup.Log.Record

/-!
# Context of log records

* `Context.process` : the options of a call to a logger after a context has added its attributes;
* `Context.processAll` : the same for contexts around each other, the outermost first;
* `Context.record` : the record of such a call.

An attribute that is there already is kept, so the caller's win over those of any context, and those of
an outer context over those of an inner one.
-/

namespace Bringup.Context

/-- The option that holds extra attributes. -/
def extraOption : String := "extra"

/-- The failure of adding attributes to something that holds none. -/
def noAttributes (v : Value) : Failure :=
  .ofRuntime .attribute s!"'{v.kindName}' object has no attribute 'setdefault'"

/-- The options of a call after a context has added its attributes. -/
def process (context : Fields) (options : Fields) : Except Failure Fields :=
  match (options.lookup extraOption).getD (.doc []) with
  | .doc extra => .ok (Assoc.put extraOption (.doc (Assoc.putMissing context extra)) options)
  | v => if context.isEmpty then .ok (Assoc.put extraOption v options) else .error (noAttributes v)

/-- The options of a call after all contexts; the first one is the outermost. -/
def processAll : List Fields → Fields → Except Failure Fields
  | [], options => .ok options
  | context :: rest, options => (process context options).bind (processAll rest)

/-- The options that a logger knows. -/
def knownOptions : List String := ["exc_info", extraOption, "stack_info", "stacklevel"]

/-- The failure of an option that no logger knows. -/
def unknownOption (name : String) : Failure :=
  .ofRuntime .type s!"Logger._log() got an unexpected keyword argument '{name}'"

/-- The failure of an extra attribute that the record has already. -/
def overwrite (name : String) : Failure :=
  .ofRuntime .key s!"Attempt to overwrite {quote name} in LogRecord"

/-- The names that no extra attribute may have. -/
def takenNames : List String := ["message", "asctime"] ++ Record.ownNames

/-- A record with extra attributes. -/
def withExtras (r : Record) (extras : Fields) : Except Failure Record :=
  match extras.find? fun (name, _) => takenNames.contains name with
  | some (name, _) => .error (overwrite name)
  | none => .ok (r.setAll extras)

/-- The record of a call with options.  Asking for a failure where there is none is noted. -/
def record (name : String) (level : Int) (message : Value) (values : List Value) (options : Fields)
    (origin : Origin) : Except Failure Record :=
  match options.find? fun (option, _) => !knownOptions.contains option with
  | some (option, _) => .error (unknownOption option)
  | none =>
    let wanted := ((options.lookup "exc_info").map Value.isTruthy).getD false
    let r := Record.make name level message values (if wanted then some none else none) origin
    match options.lookup extraOption with
    | some (.doc extras) => withExtras r extras
    | _ => .ok r

end Bringup.Context
