import Bringup.Settings.Basic
import Bringup.Check.Shape

/-!
# Checked settings

* `Settings.check` : settings from named values; a name without a value has a default;
* `Settings.Sources` : where the values come from;
* `Settings.load` : settings from such sources.

An argument wins over a variable of the environment, and a variable over a line of the settings file.
Names of variables and lines are read in letters of either case, and all their values are texts.
-/

namespace Bringup.Settings

/-- A text that counts as unset when it is blank. -/
def unlessBlank (t : Option String) : Option String := t.filter fun s => !isBlankText s

/-- A text that may be null; a blank one counts as null. -/
def optionalText (v : Value) : Checked (Option String) := (Check.orNull Check.text v).map unlessBlank

/-- The names that a log level may have, in the order of the alphabet. -/
def levelNames : List String := ["critical", "debug", "error", "info", "warning"]

/-- The name of a log level. -/
def levelNamed (v : Value) : Checked Level :=
  (Check.text v).bind fun s =>
    let known := if toLower s ∈ levelNames then Level.ofName? (toLower s) else none
    match known with
    | some level => .valid level
    | none =>
      .problem (.refused
        ("Invalid log_level '" ++ s ++ "'. Must be one of: " ++ ", ".intercalate levelNames))

/-- The name of a seed policy. -/
def policyNamed (v : Value) : Checked SeedPolicy :=
  (Check.text v).bind fun s =>
    match SeedPolicy.ofName? (toLower s) with
    | some policy => .valid policy
    | none =>
      .problem (.refused
        ("Invalid seed_policy '" ++ s ++ "'. Must be one of: "
          ++ ", ".intercalate SeedPolicy.names))

/-- A number of a port. -/
def portNumber (v : Value) : Checked Int :=
  ((Check.integer v).bind (Check.atLeast 1)).bind (Check.atMost 65535)

/-- A timeout, of one millisecond at least. -/
def timeout (v : Value) : Checked Int := (Check.integer v).bind (Check.atLeast 1)

/-- Settings from named values. -/
def check (given : Fields) : Checked Settings :=
  Settings.mk
    <$> Check.optional "mongodb_uri" none optionalText given
    <*> Check.optional "mongodb_host" "localhost" Check.text given
    <*> Check.optional "mongodb_port" 27017 portNumber given
    <*> Check.optional "mongodb_username" none optionalText given
    <*> Check.optional "mongodb_password" none optionalText given
    <*> Check.optional "mongodb_auth_source" "admin" Check.text given
    <*> Check.optional "mongodb_replica_set" none optionalText given
    <*> Check.optional "mongodb_db_name" "gin_admin" Check.filledText given
    <*> Check.optional "app_db_user" "gin_admin" Check.filledText given
    <*> Check.optional "app_db_password" "gin_admin123" Check.filledText given
    <*> Check.optional "app_db_role" "readWrite" Check.text given
    <*> Check.optional "mongodb_connect_timeout_ms" 10000 timeout given
    <*> Check.optional "mongodb_server_selection_timeout_ms" 30000 timeout given
    <*> Check.optional "mongodb_socket_timeout_ms" 30000 timeout given
    <*> Check.optional "seed_policy" .upsert policyNamed given
    <*> Check.optional "log_level" .info levelNamed given
    <*> Check.optional "json_logs" false Check.truth given

/-- The fields of settings by name. -/
def fields (s : Settings) : Fields :=
  let orNull (t : Option String) : Value := (t.map Value.str).getD .null
  [("mongodb_uri", orNull s.uri),
    ("mongodb_host", .str s.host),
    ("mongodb_port", .int s.port),
    ("mongodb_username", orNull s.username),
    ("mongodb_password", orNull s.password),
    ("mongodb_auth_source", .str s.authSource),
    ("mongodb_replica_set", orNull s.replicaSet),
    ("mongodb_db_name", .str s.database),
    ("app_db_user", .str s.appUser),
    ("app_db_password", .str s.appPassword),
    ("app_db_role", .str s.appRole),
    ("mongodb_connect_timeout_ms", .int s.connectTimeout),
    ("mongodb_server_selection_timeout_ms", .int s.selectionTimeout),
    ("mongodb_socket_timeout_ms", .int s.socketTimeout),
    ("seed_policy", .str s.seedPolicy.name),
    ("log_level", .str (toLower s.logLevel.name)),
    ("json_logs", .bool s.jsonLogs)]

/-- The names of the fields of settings, in their order. -/
def names : List String :=
  ["mongodb_uri", "mongodb_host", "mongodb_port", "mongodb_username", "mongodb_password",
    "mongodb_auth_source", "mongodb_replica_set", "mongodb_db_name", "app_db_user",
    "app_db_password", "app_db_role", "mongodb_connect_timeout_ms",
    "mongodb_server_selection_timeout_ms", "mongodb_socket_timeout_ms", "seed_policy", "log_level",
    "json_logs"]

theorem keys_fields (s : Settings) : Assoc.keys s.fields = names := rfl

/-- Where the values of settings come from: arguments, variables of the environment, and the text of the
settings file. -/
structure Sources where
  arguments : Fields
  environment : List (String × String)
  file : String

namespace Sources

/-- No arguments, no variables and no file. -/
def empty : Sources := ⟨[], [], ""⟩

/-- The value on a line after the equals sign: a comment after a blank is left out. -/
def lineValue : List Char → List Char
  | [] => []
  | c :: '#' :: cs => if isBlank c then [] else c :: lineValue ('#' :: cs)
  | c :: cs => c :: lineValue cs

/-- The name and the value of a line `NAME=VALUE`; blank lines and comments have none. -/
def lineEntry? (line : List Char) : Option (String × String) :=
  let cs := trimList isBlank line
  if cs.head? = some '#' then none
  else
    let (name, rest) := cs.span (· ≠ '=')
    match rest with
    | [] => none
    | _ :: value =>
      some (String.ofList (trimList isBlank name),
        String.ofList (trimList isBlank (lineValue (trimList isBlank value))))

/-- The entries of a settings file. -/
def fileEntries (text : String) : List (String × String) :=
  (text.toList.splitOn '\n').filterMap lineEntry?

/-- Entries as named texts, under their names in lower case. -/
def named (entries : List (String × String)) : Fields :=
  entries.map fun (name, value) => (toLower name, .str value)

/-- The values of all sources by name. -/
def fields (s : Sources) : Fields :=
  let fromFile := Assoc.putAll (named (fileEntries s.file)) []
  Assoc.putAll s.arguments (Assoc.putAll (named s.environment) fromFile)

end Sources

/-- Settings from their sources. -/
def load (sources : Sources) : Except Complaint Settings :=
  (check sources.fields).toExcept "Settings"

end Bringup.Settings
