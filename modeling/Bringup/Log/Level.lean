import Bringup.Text.Case

/-!
# Levels of log records

* `Level` : the five levels, with their numbers and names;
* `Level.ofName?` : the level of a name in letters of either case;
* `levelName` : the name of any number.
-/

namespace Bringup

/-- How grave a log record is. -/
inductive Level where
  | debug
  | info
  | warning
  | error
  | critical
  deriving DecidableEq, Repr

namespace Level

/-- The number of a level. -/
def number : Level → Int
  | .debug => 10
  | .info => 20
  | .warning => 30
  | .error => 40
  | .critical => 50

/-- The name of a level. -/
def name : Level → String
  | .debug => "DEBUG"
  | .info => "INFO"
  | .warning => "WARNING"
  | .error => "ERROR"
  | .critical => "CRITICAL"

/-- The levels in the order of their numbers. -/
def all : List Level := [.debug, .info, .warning, .error, .critical]

/-- The level that a name stands for; `WARN` is a second name of `WARNING`. -/
def ofName? (s : String) : Option Level :=
  let s := toUpper s
  if s = "WARN" then some .warning else all.find? fun l => l.name == s

/-- The level that a name stands for; any unknown name means `info`. -/
def ofName (s : String) : Level := (ofName? s).getD .info

end Level

/-- The name of the level with a number. -/
def levelName (n : Int) : String :=
  if n = 0 then "NOTSET"
  else
    match Level.all.find? fun l => l.number == n with
    | some l => l.name
    | none => s!"Level {n}"

end Bringup
