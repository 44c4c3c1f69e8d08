import Bringup.Folder
import Bringup.Settings.Basic
import Bringup.Text.Digit
import Bringup.Text.Lines

/-!
# Options of the command line

* `Options` : what a command line asks for;
* `Options.parse` : the options that words spell, or why there are none;
* `Halt` : help was asked for, or the words are wrong in some way.

A long switch may be cut short as long as only one begins so, and may carry its value behind an equals
sign.  Short switches may share one dash.  After `--` no word is a switch; since nothing but switches is
known, every other word is refused at the end.
-/

namespace Bringup

/-- What a command line asks for. -/
structure Options where
  verbose : Bool
  jsonLogs : Bool
  seedPolicy : Option SeedPolicy
  skipPrincipal : Bool
  skipSeed : Bool
  seedFile : Option String
  verify : Bool
  deriving DecidableEq, Repr

/-- The switches of the command line. -/
inductive Switch where
  | help
  | verbose
  | jsonLogs
  | seedPolicy
  | skipPrincipal
  | skipSeed
  | seedFile
  | verify
  deriving DecidableEq, Repr

namespace Switch

/-- The spellings of the switches in their order. -/
def spellings : List (String × Switch) :=
  [("-h", .help), ("--help", .help), ("--verbose", .verbose), ("-v", .verbose),
    ("--json-logs", .jsonLogs), ("--seed-policy", .seedPolicy),
    ("--skip-principal", .skipPrincipal), ("--skip-seed", .skipSeed), ("--seed-file", .seedFile),
    ("--verify", .verify)]

/-- The switch with a spelling. -/
def spelled? (cs : List Char) : Option Switch := spellings.lookup (String.ofList cs)

/-- All spellings of a switch. -/
def title (s : Switch) : String :=
  "/".intercalate ((spellings.filter fun (_, t) => t = s).map Prod.fst)

/-- Whether a value belongs to the switch. -/
def takesValue : Switch → Bool
  | .seedPolicy | .seedFile => true
  | _ => false

end Switch

/-- What is wrong with the words of a command line. -/
inductive UsageFault where
  | ambiguous (word : String) (candidates : List String)
  | badChoice (switch : Switch) (value : String)
  | noValue (switch : Switch)
  | needlessValue (switch : Switch) (value : String)
  | unknown (words : List String)
  deriving DecidableEq, Repr

/-- Why a command line gives no options. -/
inductive Halt where
  | help
  | usage (fault : UsageFault)
  deriving DecidableEq, Repr

namespace UsageFault

/-- What is said of a fault. -/
def message : UsageFault → String
  | .ambiguous word candidates =>
    s!"ambiguous option: {word} could match " ++ ", ".intercalate candidates
  | .badChoice switch value =>
    s!"argument {switch.title}: invalid choice: {quote value} (choose from "
      ++ ", ".intercalate (SeedPolicy.names.map quote) ++ ")"
  | .noValue switch => s!"argument {switch.title}: expected one argument"
  | .needlessValue switch value =>
    s!"argument {switch.title}: ignored explicit argument {quote value}"
  | .unknown words => "unrecognized arguments: " ++ " ".intercalate words

end UsageFault

namespace Options

/-- Nothing is asked for. -/
def none : Options := ⟨false, false, .none, false, false, .none, false⟩

/-! ### The kinds of words -/

/-- A value that a word carries for its switch: behind an equals sign, or right after a letter. -/
structure Carried where
  afterEquals : Bool
  text : List Char
  deriving DecidableEq, Repr

/-- A word of the command line: a switch, perhaps of one letter and with a value that it carries; a word
that looks like a switch; any other word. -/
inductive Word where
  | switch (s : Switch) (short : Bool) (carried : Option Carried)
  | stray (text : String)
  | plain (text : String)
  deriving DecidableEq, Repr

/-- The parts of a text before and after the first equals sign. -/
def splitEquals (cs : List Char) : List Char × Option (List Char) :=
  let name := cs.takeWhile (· ≠ '=')
  match cs.drop name.length with
  | [] => (name, .none)
  | _ :: value => (name, some value)

/-- Whether a spelling is one of a single letter. -/
def isShort (spelling : List Char) : Bool := (spelling.drop 1).head? != some '-'

/-- A minus sign and digits, perhaps with a point before the last of them. -/
def isNegativeNumber (cs : List Char) : Bool :=
  let isDigit (c : Char) : Bool := (decimalDigit? c).isSome
  match cs with
  | '-' :: rest =>
    let rest := if rest.getLast? = some '\n' then rest.dropLast else rest
    match rest.dropWhile isDigit with
    | [] => !rest.isEmpty
    | '.' :: digits => !digits.isEmpty && digits.all isDigit
    | _ => false
  | _ => false

/-- The switches that a word may mean, with their spellings and the value that it carries. -/
def candidates (cs : List Char) : List (String × Switch × Option Carried) :=
  if isShort cs then
    match Switch.spelled? (cs.take 2) with
    | some s => [(String.ofList (cs.take 2), s, some ⟨false, cs.drop 2⟩)]
    | .none => []
  else
    let (name, value) := splitEquals cs
    Switch.spellings.filterMap fun (spelling, s) =>
      if name.isPrefixOf spelling.toList then
        some (spelling, s, value.map fun v => ⟨true, v⟩)
      else .none

/-- The kind of a word that begins with a dash and has more characters. -/
def dashed (text : String) : Except UsageFault Word :=
  let cs := text.toList
  match splitEquals cs with
  | (name, some value) =>
    match Switch.spelled? name with
    | some s => .ok (.switch s (isShort name) (some ⟨true, value⟩))
    | .none => search cs
  | _ => search cs
where
  /-- The kind of a word that is no spelling itself. -/
  search (cs : List Char) : Except UsageFault Word :=
    match candidates cs with
    | [] =>
      .ok (if isNegativeNumber cs || cs.contains ' ' then .plain text else .stray text)
    | [(spelling, s, carried)] => .ok (.switch s (isShort spelling.toList) carried)
    | several => .error (.ambiguous text (several.map Prod.fst))

/-- The kind of a word. -/
def classify (text : String) : Except UsageFault Word :=
  let cs := text.toList
  if cs.head? != some '-' then .ok (.plain text)
  else
    match Switch.spelled? cs with
    | some s => .ok (.switch s (isShort cs) .none)
    | .none => if cs.length = 1 then .ok (.plain text) else dashed text

/-- The kinds of words; all after `--`, and `--` itself, are strays or plain. -/
def classifyAll : List String → Except UsageFault (List Word)
  | [] => .ok []
  | text :: rest =>
    if text = "--" then .ok (.stray text :: rest.map .plain)
    else
      match classify text with
      | .error fault => .error fault
      | .ok word => (classifyAll rest).map (word :: ·)

/-! ### Carrying out -/

/-- The options after a switch without a value. -/
def turnOn (o : Options) : Switch → Except Halt Options
  | .help => .error .help
  | .verbose => .ok { o with verbose := true }
  | .jsonLogs => .ok { o with jsonLogs := true }
  | .skipPrincipal => .ok { o with skipPrincipal := true }
  | .skipSeed => .ok { o with skipSeed := true }
  | .verify => .ok { o with verify := true }
  | .seedPolicy | .seedFile => .ok o

/-- The options after several switches without values. -/
def turnOnAll (o : Options) : List Switch → Except Halt Options
  | [] => .ok o
  | s :: rest => (o.turnOn s).bind fun o => o.turnOnAll rest

/-- The options after a switch with a value. -/
def assign (o : Options) (s : Switch) (value : String) : Except Halt Options :=
  match s with
  | .seedPolicy =>
    match SeedPolicy.ofName? value with
    | some policy => .ok { o with seedPolicy := some policy }
    | .none => .error (.usage (.badChoice s value))
  | .seedFile => .ok { o with seedFile := some (normalPath value) }
  | _ => .ok o

/-- The switches of one letter that share a dash, and a letter that is none with what follows it.  A
value after one of them is refused; `s` is the switch before `letters`. -/
def cluster (s : Switch) (afterEquals : Bool) : List Char →
    Except UsageFault (List Switch × Option String)
  | [] => .error (.needlessValue s "")
  | c :: rest =>
    if afterEquals || c = '-' then .error (.needlessValue s (String.ofList (c :: rest)))
    else
      match Switch.spelled? ['-', c] with
      | .none => .ok ([s], some (String.ofList ('-' :: c :: rest)))
      | some next =>
        match rest with
        | [] => .ok ([s, next], .none)
        | '=' :: value => .error (.needlessValue next (String.ofList value))
        | letter :: letters =>
          (cluster next false (letter :: letters)).map fun (ss, stray) => (s :: ss, stray)

/-- Carries out the words one after the other; the result holds those that no switch takes. -/
def carryOut (o : Options) : List Word → Except Halt (Options × List String)
  | [] => .ok (o, [])
  | .stray text :: rest | .plain text :: rest =>
    (carryOut o rest).map fun (o, words) => (o, text :: words)
  | .switch s short carried :: rest =>
    if s.takesValue then
      match carried, rest with
      | some c, rest =>
        match o.assign s (String.ofList c.text) with
        | .error halt => .error halt
        | .ok o => carryOut o rest
      | .none, .plain value :: rest =>
        match o.assign s value with
        | .error halt => .error halt
        | .ok o => carryOut o rest
      | .none, _ => .error (.usage (.noValue s))
    else
      match carried with
      | .none =>
        match o.turnOn s with
        | .error halt => .error halt
        | .ok o => carryOut o rest
      | some c =>
        if short then
          match cluster s c.afterEquals c.text with
          | .error fault => .error (.usage fault)
          | .ok (switches, stray) =>
            match o.turnOnAll switches with
            | .error halt => .error halt
            | .ok o => (carryOut o rest).map fun (o, words) => (o, stray.toList ++ words)
        else .error (.usage (.needlessValue s (String.ofList c.text)))

/-- The options that words spell. -/
def parse (words : List String) : Except Halt Options :=
  match classifyAll words with
  | .error fault => .error (.usage fault)
  | .ok words =>
    match carryOut none words with
    | .error halt => .error halt
    | .ok (o, []) => .ok o
    | .ok (_, rest) => .error (.usage (.unknown rest))

end Options

end Bringup
