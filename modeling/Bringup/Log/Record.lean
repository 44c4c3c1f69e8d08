import Bringup.Log.Level
import Bringup.Log.Mask
import Bringup.Text.Percent
import Bringup.Text.Search
import Bringup.Value.Equal

/-!
# Log records

* `Record` : the attributes of a record in the order of their setting, the values for its message, and the
  failure it tells of;
* `Record.make` : a record from what is known where something is said;
* `Record.message` : its message with the values filled in;
* `Record.masked` : the record without credentials in its message.
-/

namespace Bringup

/-- A record.  A record may carry the information that there is a failure without one being there. -/
structure Record where
  attributes : Fields
  arguments : Arguments
  failure : Option (Option Failure)

/-- Where and when something is said: file, line, function, and seconds since the start of 1970. -/
structure Origin where
  path : String
  line : Int
  function : Option String
  created : Value

namespace Arguments

/-- The values for a message.  A single document that is not empty gives its fields by name. -/
def ofValues (values : List Value) : Arguments :=
  match values with
  | [.doc (field :: rest)] => .single (.doc (field :: rest))
  | values => .positional values

/-- Whether there is any value. -/
def isGiven : Arguments → Bool
  | .positional values => !values.isEmpty
  | .single v => v.isTruthy

end Arguments

/-- The part of a path after the last slash. -/
def fileName (path : String) : String :=
  String.ofList (path.toList.reverse.takeWhile (· ≠ '/')).reverse

/-- A file name without what follows its last point. -/
def moduleName (file : String) : String :=
  let cs := file.toList.reverse
  let stem := (cs.dropWhile (· ≠ '.')).drop 1
  if stem.all (· == '.') then file else String.ofList stem.reverse

namespace Record

/-- The names of the attributes that every record has. -/
def ownNames : List String :=
  ["name", "msg", "args", "levelname", "levelno", "pathname", "filename", "module", "exc_info",
    "exc_text", "stack_info", "lineno", "funcName", "created", "msecs", "relativeCreated", "thread",
    "threadName", "processName", "process"]

/-- A record of what is said by a logger at a level. -/
def make (name : String) (level : Int) (message : Value) (values : List Value)
    (failure : Option (Option Failure)) (origin : Origin) : Record :=
  let file := fileName origin.path
  { attributes :=
      [("name", .str name), ("msg", message), ("levelname", .str (levelName level)),
        ("levelno", .int level), ("pathname", .str origin.path), ("filename", .str file),
        ("module", .str (moduleName file)), ("exc_text", .null), ("stack_info", .null),
        ("lineno", .int origin.line),
        ("funcName", (origin.function.map Value.str).getD .null), ("created", origin.created)]
    arguments := .ofValues values
    failure }

/-- The value of an attribute; null if it is missing. -/
def get (r : Record) (name : String) : Value := (r.attributes.lookup name).getD .null

/-- The record with an attribute set.  The values for the message are an attribute too, and so is the
information about a failure, which an empty value takes away. -/
def set (r : Record) (name : String) (v : Value) : Record :=
  if name = "args" then { r with arguments := .single v }
  else
    { r with
      attributes := Assoc.put name v r.attributes
      failure := if name = "exc_info" ∧ !v.isTruthy then none else r.failure }

theorem get_of_lookup {r : Record} {name : String} {v : Value} (h : r.attributes.lookup name = some v) :
    r.get name = v := by
  rw [get, h, Option.getD_some]

theorem get_set_self {r : Record} {name : String} {v : Value} (h : name ≠ "args") :
    (r.set name v).get name = v := by
  simp only [set, h, if_false, get, Assoc.lookup_put_self, Option.getD_some]

theorem get_set_of_ne {r : Record} {name other : String} {v : Value} (h : other ≠ name) :
    (r.set name v).get other = r.get other := by
  by_cases hargs : name = "args"
  · simp only [set, hargs, if_true, get]
  · simp only [set, hargs, if_false, get, Assoc.lookup_put_of_ne h]

/-- The record with attributes set one after the other. -/
def setAll (r : Record) (extras : Fields) : Record :=
  extras.foldl (fun r (name, v) => r.set name v) r

/-- The message with the values filled in. -/
def message (r : Record) : Except Failure String :=
  let text := (r.get "msg").display
  if !(r.get "msg").showable then .error (.ofRuntime .value unshowableText)
  else if r.arguments.isGiven then
    match Percent.format text.toList r.arguments with
    | .ok cs => .ok (String.ofList cs)
    | .error fault => .error fault.failure
  else .ok text

/-- The record without credentials in its message.  A message that holds none keeps its values. -/
def masked (r : Record) : Except Failure Record :=
  r.message.map fun text =>
    let hidden := String.ofList (Credential.mask text.toList)
    if hidden = text then r
    else { r.set "msg" (.str hidden) with arguments := .positional [] }

/-- The failure of showing a time that is on no clock. -/
def clockFailure (fault : ClockFault) : Failure :=
  match fault with
  | .beyondClock => .ofRuntime .overflow fault.message
  | .beyondCalendar => .ofRuntime .system fault.message
  | .notNumber | .year _ => .ofRuntime .value fault.message

/-- The failure of reading a time from what is no number. -/
def notTime (v : Value) : Failure :=
  .ofRuntime .type s!"'{v.kindName}' object cannot be interpreted as an integer"

/-- The seconds since the start of 1970 when the record was made. -/
def created (r : Record) : Except Failure Binary64 :=
  match (r.get "created").numeric? with
  | some (.whole n) => .ok (.ofInt n)
  | some (.real x) => .ok x
  | none => .error (notTime (r.get "created"))

end Record

/-! ### Failures in records -/

namespace Failure

/-- The name of a failure's class with the module that defines it. -/
def qualifiedName : Failure → String
  | .provision kind .. => "provisioner.errors." ++ kind.name
  | .driver kind .. => "pymongo.errors." ++ kind.name
  | .runtime kind .. => kind.name
  | .invalid _ => "pydantic_core._pydantic_core.ValidationError"

/-- A failure on a line of its own. -/
def finalLine (e : Failure) : String :=
  if e.text.isEmpty then e.qualifiedName ++ "\n" else e.qualifiedName ++ ": " ++ e.text ++ "\n"

/-- What stands between a failure and the one raised from it. -/
def causeLine : String :=
  "\nThe above exception was the direct cause of the following exception:\n\n"

/-- A failure after the failures that it was raised from. -/
def trace : Failure → String
  | .provision kind message step cause =>
    causeTrace cause ++ (Failure.provision kind message step cause).finalLine
  | .driver kind message code details cause =>
    causeTrace cause ++ (Failure.driver kind message code details cause).finalLine
  | .runtime kind message cause => causeTrace cause ++ (Failure.runtime kind message cause).finalLine
  | .invalid c => (Failure.invalid c).finalLine
where
  /-- The failures that a failure was raised from. -/
  causeTrace : Option Failure → String
    | some e => e.trace ++ causeLine
    | none => ""

/-- The failure of a record as text; a missing one is shown as such. -/
def traceOf (e : Option Failure) : String :=
  match e with
  | some e => e.trace
  | none => "NoneType: None\n"

end Failure

end Bringup
