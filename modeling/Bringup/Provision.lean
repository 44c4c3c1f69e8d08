import Bringup.Failure.Taxonomy
import Bringup.Program
import Bringup.Report
import Bringup.Spec.Seed

/-!
# Bringing a database up

* `Plan` : what a run shall make exist, and how;
* `Plan.provision` : the run: the principal, the collections, their indexes and the role documents, in
  this order;
* `Plan.ensurePrincipal`, `Plan.ensureCollections`, `Plan.ensureIndexes`, `Plan.seedRoles` : its steps.

What is there already is skipped.  The first other failure ends the run: it is classified, said once,
and nothing after it is done; nothing before it is undone.
-/

namespace Bringup

/-- Makes a program of every item and collects what they end with. -/
def Program.each {α β : Type} (f : α → Program β) : List α → Program (List β)
  | [] => .done []
  | a :: rest => do
    let b ← f a
    let bs ← Program.each f rest
    return b :: bs

/-- The database of users. -/
def adminDatabase : String := "admin"

/-- What a run shall make exist, and how. -/
structure Plan where
  spec : SeedSpec
  policy : SeedPolicy
  skipPrincipal : Bool
  skipSeed : Bool
  deriving DecidableEq, Repr

/-- The policy that a value names. -/
def SeedPolicy.select (v : Value) : Except Failure SeedPolicy :=
  match v with
  | .str s =>
    match SeedPolicy.ofName? s with
    | some policy => .ok policy
    | none => refuse
  | _ => refuse
where
  /-- The failure of a value that names no policy. -/
  refuse : Except Failure SeedPolicy :=
    .error (.provision .validation
      (s!"Invalid seed policy '{v.display}'. Must be one of: " ++ ", ".intercalate SeedPolicy.names)
      none none)

namespace Plan

variable (plan : Plan)

/-- The database that is brought up. -/
def database : String := plan.spec.database

/-- An entry of the run, with the step and the collection that it is about. -/
def entry (level : Level) (message : String) (step : Option Step) (collection : Option String) :
    Entry :=
  { level
    logger := LogNames.provisioning
    message
    context := [("database", plan.database)]
      ++ (match step with
        | some step => [("step", step.name)]
        | none => [])
      ++ (match collection with
        | some name => [("collection", name)]
        | none => []) }

/-- Says something about the run as a whole. -/
def tell (message : String) : Program Unit := .say (plan.entry .info message none none)

/-- Says something in a step. -/
def tellStep (step : Step) (level : Level) (message : String) : Program Unit :=
  .say (plan.entry level message (some step) none)

/-- Says something in the step of indexes about a collection. -/
def tellIndex (collection : String) (level : Level) (message : String) : Program Unit :=
  .say (plan.entry level message (some .indexes) (some collection))

/-- Ends the run because of a failure in a step. -/
def abort {α : Type} (step : Step) (e : Failure) : Program α :=
  let failure := e.classify (some step.name)
  (Program.say (plan.entry .error
    s!"Step '{step.name}' failed: {failure.name}: {failure.bareMessage}" none none)).bind fun _ =>
      .fail failure

/-- Ends the run where the driver fails. -/
def guarded {α : Type} (step : Step) (p : Program α) : Program α := p.rescue (plan.abort step)

/-! ### The principal -/

/-- Creates the user of the specification. -/
def createPrincipal : Program Action := do
  let p := plan.spec.principal
  Program.perform (.database adminDatabase)
  let _ ← Program.perform (.command adminDatabase Server.createUser (.str p.name)
    [("pwd", .str p.secret), ("roles", p.roleGrants)])
  return .created

/-- What is said of the user. -/
def principalMessage (action : Action) : String :=
  let p := plan.spec.principal
  match action with
  | .created =>
    s!"Created principal '{p.name}' with role '{p.role}' on database '{p.grantDatabase}'"
  | _ => s!"Principal '{p.name}' already exists, skipping"

/-- Creates the user, or skips it if it is there. -/
def ensurePrincipal : Program Outcome := do
  let action ← plan.createPrincipal.rescue fun e =>
    if e.saysUserExists then return .skipped else plan.abort .principal e
  plan.tellStep .principal .info (plan.principalMessage action)
  return ⟨.principal, plan.spec.principal.name, action⟩

/-! ### Collections -/

/-- Creates a collection. -/
def createCollection (name : String) : Program Action := do
  Program.perform (.createCollection plan.database name)
  return .created

/-- What is said of a collection that was not among the existing ones. -/
def tellCollection (name : String) : Action → Program Unit
  | .created => plan.tellStep .collections .info s!"Created collection: {name}"
  | _ =>
    plan.tellStep .collections .debug s!"Collection '{name}' created concurrently, skipping"

/-- Creates a collection, or skips it if it is among the existing ones or turns out to be there. -/
def ensureCollection (existing : List String) (name : String) : Program Outcome :=
  if existing.contains name then do
    plan.tellStep .collections .debug s!"Collection '{name}' already exists, skipping"
    return ⟨.collections, name, .skipped⟩
  else do
    let action ← (plan.createCollection name).rescue fun e =>
      if e.saysAlreadyExists then return .skipped else plan.abort .collections e
    plan.tellCollection name action
    return ⟨.collections, name, action⟩

/-- Creates the collections that are not there. -/
def ensureCollections : Program (List Outcome) := do
  let existing ← plan.guarded .collections (Program.perform (.listCollections plan.database))
  Program.each (plan.ensureCollection existing) plan.spec.collectionNames

/-! ### Indexes -/

/-- The failure of an index that is there with another definition. -/
def indexConflict (target : String) (index : IndexSpec) (info : IndexInfo) : Failure :=
  .provision .validation
    (s!"Index '{target}' already exists with different options (existing key={info.keyText}, "
      ++ s!"unique={IndexInfo.flagText info.unique}, sparse={IndexInfo.flagText info.sparse}; "
      ++ s!"declared {index.describe})")
    (some Step.indexes.name) none

/-- Creates an index, or skips it if the collection has one of its name and definition. -/
def ensureIndex (collection : String) (existing : Assoc IndexInfo) (index : IndexSpec) :
    Program Outcome :=
  let target := s!"{collection}.{index.indexName}"
  match existing.lookup index.indexName with
  | some info =>
    (Program.ofExcept (index.matches? info)).bind fun same =>
      if same then do
        plan.tellIndex collection .debug s!"Index '{target}' already exists, skipping"
        return ⟨.indexes, target, .skipped⟩
      else
        let conflict := indexConflict target index info
        (plan.tellIndex collection .error conflict.bareMessage).bind fun _ => .fail conflict
  | none => do
    plan.guarded .indexes (Program.perform (.createIndex plan.database collection index))
    plan.tellIndex collection .info s!"Created index: {collection}.{index.describe}"
    return ⟨.indexes, target, .created⟩

/-- Creates the indexes of a collection that are not there. -/
def ensureCollectionIndexes (c : CollectionSpec) : Program (List Outcome) :=
  if c.indexes.isEmpty then .done []
  else do
    Program.perform (.collection plan.database c.name)
    let existing ← plan.guarded .indexes (Program.perform (.indexInformation plan.database c.name))
    Program.each (plan.ensureIndex c.name existing) c.indexes

/-- Creates the indexes that are not there. -/
def ensureIndexes : Program (List Outcome) := do
  let outcomes ← Program.each plan.ensureCollectionIndexes plan.spec.collections
  return outcomes.flatten

/-! ### Role documents -/

/-- Documents with the code of a role. -/
def codeFilter (r : RoleSeed) : Fields := [("code", .str r.code)]

/-- Inserts a role document unless one with its code is there; `present` is what is then recorded. -/
def insertRole (r : RoleSeed) (now : Instant) (present : Action) : Program Action := do
  let inserted ← Program.perform
    (.insertIfAbsent plan.database rolesCollection (codeFilter r) (r.document now))
  return if (inserted : Option Value).isSome then .created else present

/-- Brings the stored document of a role in line with the seed. -/
def updateRole (r : RoleSeed) (now : Instant) (stored : Fields) : Program Action :=
  if r.differs stored then
    match stored.lookup "_id" with
    | some identity => do
      Program.perform (.setFields plan.database rolesCollection [("_id", identity)]
        (r.content ++ [("updated_at", .date now)]))
      return .updated
    | none => .fail (.ofRuntime .key "_id")
  else .done .unchanged

/-- Writes a role document by the policy of the plan. -/
def writeRole (r : RoleSeed) (now : Instant) : Program Action :=
  match plan.policy with
  | .skip => plan.insertRole r now .skipped
  | .upsert => do
    let stored ← Program.perform (.findOne plan.database rolesCollection (codeFilter r))
    match (stored : Option Fields) with
    | none => plan.insertRole r now .unchanged
    | some stored => plan.updateRole r now stored

/-- What a role grants, in messages. -/
def scopeText (r : RoleSeed) : String :=
  if r.grantsAll then "all permissions" else ", ".intercalate r.permissions

/-- Writes a role document. -/
def seedRole (now : Instant) (r : RoleSeed) : Program Outcome := do
  let action ← plan.guarded .seed (plan.writeRole r now)
  plan.tell s!"Seed role '{r.code}' ({scopeText r}): {action.name}"
  return ⟨.seed, r.code, action⟩

/-- Writes the role documents. -/
def seedRoles (now : Instant) : Program (List Outcome) :=
  if plan.spec.roles.isEmpty then .done []
  else do
    Program.perform (.collection plan.database rolesCollection)
    Program.each (plan.seedRole now) plan.spec.roles

/-! ### The run -/

/-- The step of the principal, unless it is skipped. -/
def principalStep : Program (List Outcome) :=
  if plan.skipPrincipal then do
    plan.tell "Skipping principal creation"
    return []
  else do
    let outcome ← plan.ensurePrincipal
    return [outcome]

/-- The step of the role documents, unless it is skipped. -/
def seedStep (now : Instant) : Program (List Outcome) :=
  if plan.skipSeed then do
    plan.tell "Skipping seed role documents"
    return []
  else plan.seedRoles now

/-- Brings the database up; `now` is what the clock shows. -/
def provision (now : Instant) : Program Report := do
  plan.tell s!"Provisioning database '{plan.database}'"
  let principal ← plan.principalStep
  Program.perform (.database plan.database)
  let collections ← plan.ensureCollections
  let indexes ← plan.ensureIndexes
  let seeds ← plan.seedStep now
  let report : Report :=
    { database := plan.database
      policy := plan.policy.name
      started := now
      finished := some now
      outcomes := principal ++ collections ++ indexes ++ seeds }
  plan.tell s!"Provisioning finished: {report.summary}"
  return report

end Plan

end Bringup
