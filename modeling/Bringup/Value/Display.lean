import Bringup.Value.Basic
import Bringup.Number.Shortest
import Bringup.Text.Quoted

/-!
# Values in messages

* `Value.display` : a text as it is, an instant with a space between day and time, and all else as
  `Value.inspect` writes it;
* `Value.inspect` : texts in quotes, `[1, 'a']` for a list, `{'k': 1}` for a document;
* `tupleText` : items between parentheses, a single one followed by a comma.
-/

namespace Bringup

/-- Items between parentheses; a comma follows a single one. -/
def tupleText : List String → String
  | [item] => "(" ++ item ++ ",)"
  | items => "(" ++ ", ".intercalate items ++ ")"

/-- Items between brackets. -/
def listText (items : List String) : String := "[" ++ ", ".intercalate items ++ "]"

/-- Pairs of a key and a value between braces. -/
def braceText (pairs : List (String × String)) : String :=
  "\x7b" ++ ", ".intercalate (pairs.map fun (k, v) => k ++ ": " ++ v) ++ "\x7d"

/-- A truth value in messages. -/
def truthName (b : Bool) : String := if b then "True" else "False"

/-- An offset as the parts that build it: whole days, and seconds of a day. -/
def offsetParts (seconds : Int) : String :=
  let days := seconds / 86400
  let rest := seconds % 86400
  ", ".intercalate
    ((if days = 0 then [] else ["days=" ++ toString days])
      ++ (if rest = 0 then [] else ["seconds=" ++ toString rest]))

/-- An instant as the parts that build it. -/
def Instant.inspect (t : Instant) : String :=
  let w := t.wall
  let parts := [w.date.year, w.date.month, w.date.day, w.hour, w.minute].map toString
  let small :=
    if w.microsecond ≠ 0 then [toString w.second, toString w.microsecond]
    else if w.second ≠ 0 then [toString w.second]
    else []
  let zone :=
    match t.offset with
    | none => []
    | some 0 => ["tzinfo=datetime.timezone.utc"]
    | some n => ["tzinfo=datetime.timezone(datetime.timedelta(" ++ offsetParts n ++ "))"]
  "datetime.datetime(" ++ ", ".intercalate (parts ++ small ++ zone) ++ ")"

namespace Value

mutual

/-- A value so that its type shows. -/
def inspect : Value → String
  | .null => "None"
  | .bool b => truthName b
  | .int n => toString n
  | .float x => x.text .plain
  | .str s => quote s
  | .date t => t.inspect
  | .list items => listText (inspectItems items)
  | .doc fields => braceText (inspectFields fields)

/-- The items of a list, each by itself. -/
def inspectItems : List Value → List String
  | [] => []
  | v :: vs => inspect v :: inspectItems vs

/-- The fields of a document, each by itself. -/
def inspectFields : List (String × Value) → List (String × String)
  | [] => []
  | (k, v) :: rest => (quote k, inspect v) :: inspectFields rest

end

/-- A value as it stands inside a message. -/
def display : Value → String
  | .str s => s
  | .date t => t.display
  | v => v.inspect

end Value

end Bringup
