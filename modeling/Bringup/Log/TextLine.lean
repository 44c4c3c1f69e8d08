import Bringup.Log.Record
import Bringup.Text.Word
import Bringup.Time.Pattern

/-!
# Records as lines for readers

* `TextFormat` : a template whose places are filled by attributes, and a pattern for the time;
* `TextFormat.make` : such a format from texts, with defaults for empty ones;
* `TextFormat.line` : a record in a format, followed by the failure it tells of and by its stack.

A template needs at least one place that names an attribute.
-/

namespace Bringup

/-- A template and the pattern of its times. -/
structure TextFormat where
  template : String
  datePattern : String
  deriving DecidableEq, Repr

namespace TextFormat

/-- Time, level, logger and message. -/
def standard : TextFormat :=
  ⟨"[%(asctime)s] %(levelname)-8s %(name)s: %(message)s", "%Y-%m-%d %H:%M:%S"⟩

/-- The letters that may end a place of a template. -/
def placeLetters : List Char := "diouxefgcrsa%DIOUXEFGCRSA\u0130\u0131\u017f".toList

/-- A star or decimal digits at the start of a text are left out. -/
def dropSize : List Char → List Char
  | '*' :: cs => cs
  | cs => cs.dropWhile fun c => (decimalDigit? c).isSome

/-- A point with a star or digits at the start of a text is left out. -/
def dropPrecision : List Char → List Char
  | '.' :: cs => if (dropSize cs).length < cs.length then dropSize cs else '.' :: cs
  | cs => cs

/-- Whether a text begins with a place that names an attribute. -/
def beginsWithPlace : List Char → Bool
  | '%' :: '(' :: cs =>
    let name := cs.takeWhile isWord
    match cs.drop name.length with
    | ')' :: rest =>
      match dropPrecision (dropSize (rest.dropWhile Percent.isFlag)) with
      | letter :: _ => !name.isEmpty && placeLetters.contains letter
      | [] => false
    | _ => false
  | _ => false

/-- Whether a text has a place that names an attribute. -/
def hasPlace : List Char → Bool
  | [] => false
  | c :: cs => beginsWithPlace (c :: cs) || hasPlace cs

/-- A format from a template and a pattern; missing or empty ones are the standard ones. -/
def make (template datePattern : Option String) : Except Failure TextFormat :=
  let orStandard (t : Option String) (s : String) : String := (t.filter (!·.isEmpty)).getD s
  let template := orStandard template standard.template
  if hasPlace template.toList then
    .ok ⟨template, orStandard datePattern standard.datePattern⟩
  else .error (.ofRuntime .value s!"Invalid format '{template}' for '%' style")

/-- Whether the template shows the time. -/
def showsTime (f : TextFormat) : Bool := holdsText "%(asctime)" f.template

/-- The time of a record by the pattern, whole seconds only. -/
def timeText (f : TextFormat) (r : Record) : Except Failure String := do
  let seconds ← (Instant.wholeSeconds (← r.created)).mapError Record.clockFailure
  return formatTime f.datePattern (WallTime.ofMicros (seconds * 1000000))

/-- The attributes that a template can name. -/
def attributes (f : TextFormat) (r : Record) (message : String) : Except Failure Fields := do
  let r := r.set "message" (.str message)
  if f.showsTime then return (r.set "asctime" (.str (← f.timeText r))).attributes
  else return r.attributes

/-- The template filled in. -/
def fillTemplate (f : TextFormat) (r : Record) (message : String) : Except Failure String := do
  let attributes ← f.attributes r message
  match Percent.format f.template.toList (.single (.doc attributes)) with
  | .ok cs => .ok (String.ofList cs)
  | .error (.noSuchField name) =>
    .error (.ofRuntime .value s!"Formatting field not found in record: {quote name}")
  | .error fault => .error fault.failure

/-- A text with another one on the next line, unless there is none. -/
def onNextLine (text more : String) : String :=
  if more.isEmpty then text
  else if text.toList.getLast? = some '\n' then text ++ more
  else text ++ "\n" ++ more

/-- A text without a line feed at its end. -/
def dropLineEnd (text : String) : String :=
  let cs := text.toList
  if cs.getLast? = some '\n' then String.ofList cs.dropLast else text

/-- The failure that a record tells of: a text set before, or the failure itself. -/
def failureText (r : Record) : String :=
  let set := r.get "exc_text"
  if set.isTruthy then set.display
  else
    match r.failure with
    | some e => dropLineEnd (Failure.traceOf e)
    | none => ""

/-- The stack that a record carries. -/
def stackText (r : Record) : String :=
  let set := r.get "stack_info"
  if set.isTruthy then set.display else ""

/-- A record in a format. -/
def line (f : TextFormat) (r : Record) : Except Failure String := do
  let message ← r.message
  let text ← f.fillTemplate r message
  return onNextLine (onNextLine text (failureText r)) (stackText r)

end TextFormat

end Bringup
