import Bringup.Json.Writer
import Bringup.Log.Record

/-!
# Records as lines of JSON

* `Record.jsonFields` : the fields of the line: time, level, logger, message, and, where they are there,
  source, exception and extra attributes;
* `Record.jsonLine` : the line, unless a whole number in a field has no text.
-/

namespace Bringup.Record

/-- The attributes that are no extra ones. -/
def reserved : List String :=
  ["args", "asctime", "created", "exc_info", "exc_text", "filename", "funcName", "levelname",
    "levelno", "lineno", "message", "module", "msecs", "msg", "name", "pathname", "process",
    "processName", "relativeCreated", "stack_info", "thread", "threadName", "taskName"]

/-- Whether an attribute is an extra one: not reserved, and not hidden by an underscore. -/
def isExtra (name : String) : Bool := name.toList.head? != some '_' && !reserved.contains name

/-- The extra attributes in the order of their setting. -/
def extras (r : Record) : Fields := r.attributes.filter fun (name, _) => isExtra name

/-- The time of the record in universal time. -/
def timeText (r : Record) : Except Failure String := do
  let t ← (Instant.ofSeconds (← r.created)).mapError clockFailure
  return t.textWith "T" true

/-- Where the record was made. -/
def sourceFields (r : Record) : Fields :=
  [("source", .doc [("filename", r.get "filename"), ("lineno", r.get "lineno"),
    ("function", r.get "funcName")])]

/-- The failure that the record tells of. -/
def exceptionFields (r : Record) : Fields :=
  match r.failure with
  | none => []
  | some e =>
    [("exception", .doc [("type", .str ((e.map Failure.name).getD "Unknown")),
      ("message", .str ((e.map Failure.text).getD "")),
      ("traceback", .str (Failure.traceOf e))])]

/-- The extra attributes as a field, when there are any. -/
def extraFields (r : Record) : Fields :=
  if r.extras.isEmpty then [] else [("extra", .doc r.extras)]

/-- The fields of the line; `source` asks for the place where the record was made. -/
def jsonFields (source : Bool) (r : Record) : Except Failure Fields := do
  let time ← r.timeText
  let message ← r.message
  return [("timestamp", .str time), ("level", r.get "levelname"), ("logger", r.get "name"),
      ("message", .str message)]
    ++ (if source then r.sourceFields else []) ++ r.exceptionFields ++ r.extraFields

/-- The record as a line of JSON. -/
def jsonLine (source : Bool) (r : Record) : Except Failure String :=
  (r.jsonFields source).bind fun fields => Json.write (.doc fields)

end Bringup.Record
