import Bringup.Failure.Taxonomy
import Bringup.Provision
import Bringup.Text.Order

/-!
# Comparing a database with a specification

* `SeedSpec.verify` : what a database lacks of a specification, by calls that only read;
* `Verification` : the state of each collection, and the problems found.
-/

namespace Bringup

/-- What was found of a declared collection. -/
structure CollectionStatus where
  name : String
  present : Bool
  documents : Nat
  indexNames : List String
  deriving DecidableEq, Repr

/-- What was found of a database. -/
structure Verification where
  database : String
  collections : List CollectionStatus
  problems : List String
  deriving DecidableEq, Repr

namespace Verification

/-- Whether no problem was found. -/
def ok (v : Verification) : Bool := v.problems.isEmpty

end Verification

namespace SeedSpec

variable (spec : SeedSpec)

/-- The problem of a declared index, given the indexes of its collection. -/
def indexProblem (collection : String) (existing : Assoc IndexInfo) (index : IndexSpec) :
    Except Failure (List String) :=
  let target := s!"{collection}.{index.indexName}"
  match existing.lookup index.indexName with
  | none => .ok [s!"Index '{target}' is missing"]
  | some info =>
    (index.matches? info).map fun same =>
      if same then [] else [s!"Index '{target}' does not match {index.describe}"]

/-- The problems of the declared indexes of a collection. -/
def indexProblems (collection : String) (existing : Assoc IndexInfo) :
    List IndexSpec → Except Failure (List String)
  | [] => .ok []
  | index :: rest =>
    match indexProblem collection existing index with
    | .error e => .error e
    | .ok problems => (indexProblems collection existing rest).map (problems ++ ·)

/-- What is found of a collection, and its problems. -/
def verifyCollection (existing : List String) (c : CollectionSpec) :
    Program (CollectionStatus × List String) :=
  if existing.contains c.name then do
    Program.perform (.collection spec.database c.name)
    let indexes : Assoc IndexInfo ← Program.perform (.indexInformation spec.database c.name)
    let count : Nat ← Program.perform (.countDocuments spec.database c.name)
    let names := sortTexts (indexes.keys.filter (· ≠ identityIndex.1))
    let problems ← Program.ofExcept (indexProblems c.name indexes c.indexes)
    return (⟨c.name, true, count, names⟩, problems)
  else return (⟨c.name, false, 0, []⟩, [s!"Collection '{c.name}' is missing"])

/-- The problems of a role, given the documents with its code. -/
def roleProblems (r : RoleSeed) : List Fields → List String
  | [] => [s!"Seed role '{r.code}' is missing"]
  | [document] =>
    let stored := (document.lookup "permissions").getD .null
    if stored.equal (.texts r.permissions) then []
    else
      [s!"Seed role '{r.code}' has permissions {stored.display}, expected "
        ++ (Value.texts r.permissions).display]
  | documents => [s!"Seed role '{r.code}' is stored {documents.length} times"]

/-- The problems of a role. -/
def verifyRole (r : RoleSeed) : Program (List String) := do
  let documents ← Program.perform (.find spec.database rolesCollection (Plan.codeFilter r))
  return roleProblems r documents

/-- The problems of all roles; none are looked for without their collection. -/
def verifyRoles (existing : List String) : Program (List String) :=
  if !spec.roles.isEmpty && existing.contains rolesCollection then do
    Program.perform (.collection spec.database rolesCollection)
    let problems ← Program.each spec.verifyRole spec.roles
    return problems.flatten
  else return []

/-- What is found of the database. -/
def inspectDatabase : Program Verification := do
  let existing : List String ← Program.perform (.listCollections spec.database)
  let found ← Program.each (spec.verifyCollection existing) spec.collections
  let roles ← spec.verifyRoles existing
  return ⟨spec.database, found.map Prod.fst, (found.map Prod.snd).flatten ++ roles⟩

/-- An entry of a verification. -/
def verificationEntry (level : Level) (message : String) : Entry :=
  ⟨level, LogNames.verification, message, []⟩

/-- The step in which a database is compared. -/
def verifyStep : String := "verify"

/-- Ends the verification because of a failure of the driver. -/
def abortVerification {α : Type} (e : Failure) : Program α :=
  let failure := e.classify (some verifyStep)
  (Program.say (verificationEntry .error s!"Verification failed: {failure.bareMessage}")).bind fun _ =>
    .fail failure

/-- The entry about a collection. -/
def statusEntry (c : CollectionStatus) : Entry :=
  if c.present then
    verificationEntry .info
      s!"  {c.name}: {c.documents} documents, {c.indexNames.length} custom indexes"
  else verificationEntry .warning s!"  {c.name}: MISSING"

/-- The entry about a problem. -/
def problemEntry (problem : String) : Entry :=
  verificationEntry .warning s!"Verification problem: {problem}"

/-- Compares a database with the specification. -/
def verify : Program Verification := do
  Program.perform (.database spec.database)
  let found ← spec.inspectDatabase.rescue abortVerification
  let _ ← Program.each Program.say (found.collections.map statusEntry)
  let _ ← Program.each Program.say (found.problems.map problemEntry)
  return found

end SeedSpec

end Bringup
