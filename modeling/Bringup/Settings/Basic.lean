import Bringup.Association
import Bringup.Value.Basic
import Bringup.Log.Level

/-!
# Settings of a run

* `Settings` : endpoint, administrative credential, target database, application principal, timeouts and
  behaviour;
* `Settings.connectionUri`, `Settings.clientOptions` : what a client is opened with;
* `SeedPolicy` : what happens to a role document that is there already.
-/

namespace Bringup

/-- How role documents are written: brought in line with the seed, or left alone once they are there. -/
inductive SeedPolicy where
  | upsert
  | skip
  deriving DecidableEq, Repr

namespace SeedPolicy

/-- The name of a policy. -/
def name : SeedPolicy → String
  | .upsert => "upsert"
  | .skip => "skip"

/-- The names of all policies. -/
def names : List String := ["upsert", "skip"]

/-- The policy of a name. -/
def ofName? : String → Option SeedPolicy
  | "upsert" => some .upsert
  | "skip" => some .skip
  | _ => none

end SeedPolicy

/-- Settings of a run.  Timeouts are in milliseconds. -/
structure Settings where
  uri : Option String
  host : String
  port : Int
  username : Option String
  password : Option String
  authSource : String
  replicaSet : Option String
  database : String
  appUser : String
  appPassword : String
  appRole : String
  connectTimeout : Int
  selectionTimeout : Int
  socketTimeout : Int
  seedPolicy : SeedPolicy
  logLevel : Level
  jsonLogs : Bool
  deriving DecidableEq, Repr

namespace Settings

/-- A text that is set and not empty. -/
def filled? (t : Option String) : Option String := t.filter (!·.isEmpty)

/-- The URI of the server: the one that is set, or one of host and port. -/
def connectionUri (s : Settings) : String :=
  (filled? s.uri).getD s!"mongodb://{s.host}:{s.port}"

/-- The administrative user and password, when both are set. -/
def adminCredential? (s : Settings) : Option (String × String) := do
  let user ← filled? s.username
  let password ← filled? s.password
  some (user, password)

/-- The options that a client is opened with: the timeouts always, credential and replica set only when
they are set. -/
def clientOptions (s : Settings) : Fields :=
  [("connectTimeoutMS", .int s.connectTimeout),
    ("serverSelectionTimeoutMS", .int s.selectionTimeout),
    ("socketTimeoutMS", .int s.socketTimeout)]
  ++ (match s.adminCredential? with
    | some (user, password) =>
      [("username", .str user), ("password", .str password), ("authSource", .str s.authSource)]
    | none => [])
  ++ (match filled? s.replicaSet with
    | some name => [("replicaSet", .str name)]
    | none => [])

end Settings

end Bringup
