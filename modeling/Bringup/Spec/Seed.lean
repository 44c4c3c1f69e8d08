import Bringup.Spec.Collection
import Bringup.Spec.Principal
import Bringup.Spec.Role
import Bringup.Settings.Basic

/-!
# Seed specifications

* `SeedSpec` : all that a run must make exist: a user, collections with indexes, role documents;
* `SeedSpec.check`, `SeedSpec.load` : a specification from a value;
* `SeedSpec.builtIn`, `SeedSpec.ofSettings` : the layout that is used when no other is given.
-/

namespace Bringup

/-- The collection of role documents. -/
def rolesCollection : String := "roles"

/-- All that a run must make exist. -/
structure SeedSpec where
  database : String
  principal : PrincipalSpec
  collections : List CollectionSpec
  roles : List RoleSeed
  deriving DecidableEq, Repr

namespace SeedSpec

/-- The names of the collections. -/
def collectionNames (s : SeedSpec) : List String := s.collections.map CollectionSpec.name

/-- No text comes twice. -/
def allDistinct : List String → Bool
  | [] => true
  | s :: rest => !rest.contains s && allDistinct rest

/-- The reason to refuse a specification whose parts do not go together. -/
def conflict? (s : SeedSpec) : Option String :=
  if !allDistinct s.collectionNames then some "Collection names must be unique"
  else if !allDistinct (s.roles.map RoleSeed.code) then some "Seed role codes must be unique"
  else if !s.roles.isEmpty && !s.collectionNames.contains rolesCollection then
    some s!"Seed roles require the '{rolesCollection}' collection to be declared"
  else none

/-- A specification from a value. -/
def check : Value → Checked SeedSpec :=
  Check.model "SeedSpec" fun fields =>
    (SeedSpec.mk
      <$> Check.required "database" Check.filledText fields
      <*> Check.required "principal" PrincipalSpec.check fields
      <*> Check.optional "collections" [] (Check.list CollectionSpec.check) fields
      <*> Check.optional "roles" [] (Check.list RoleSeed.check) fields).refine conflict?

/-- The step in which specifications are read. -/
def loadStep : String := "load_spec"

/-- A specification from a value, or a failure that tells its problems. -/
def load (v : Value) : Except Failure SeedSpec :=
  match (check v).toExcept "SeedSpec" with
  | .ok spec => .ok spec
  | .error c =>
    .error (.provision .validation ("Invalid seed specification: " ++ c.headline) (some loadStep)
      (some (.invalid c)))

/-! ### The built-in layout -/

/-- An index on one field. -/
def fieldIndex (field : String) (direction : Direction) (unique sparse : Bool) : IndexSpec :=
  ⟨[(field, direction)], unique, sparse, none⟩

/-- The collections of the built-in layout. -/
def builtInCollections : List CollectionSpec :=
  [⟨"users",
      [fieldIndex "username" .ascending true false,
        fieldIndex "email" .ascending true false,
        fieldIndex "mobile" .ascending true true]⟩,
    ⟨rolesCollection, [fieldIndex "code" .ascending true false]⟩,
    ⟨"permissions", [fieldIndex "code" .ascending true false]⟩,
    ⟨"audit_logs",
      [fieldIndex "created_at" .descending false false,
        fieldIndex "user_id" .ascending false false,
        fieldIndex "action" .ascending false false]⟩,
    ⟨"file_storage",
      [fieldIndex "filename" .ascending false false,
        fieldIndex "uploaded_at" .descending false false]⟩]

/-- The roles of the built-in layout. -/
def builtInRoles : List RoleSeed :=
  [⟨"admin", "管理员", "系统管理员角色", [RoleSeed.allPermissions]⟩,
    ⟨"user", "普通用户", "普通用户角色", ["read", "write"]⟩]

/-- The built-in layout for a database and a user.  The user is checked before the rest. -/
def builtIn (database user password role : Value) : Except Complaint SeedSpec := do
  let principal ← (PrincipalSpec.check (.doc
    [("name", user), ("secret", password), ("role", role), ("grant_db", database)])).toExcept
    "PrincipalSpec"
  let name ← ((Check.filledText database).under (.field "database")).toExcept "SeedSpec"
  .ok ⟨name, principal, builtInCollections, builtInRoles⟩

/-- The built-in layout for the database and the user of the settings. -/
def ofSettings (s : Settings) : Except Complaint SeedSpec :=
  builtIn (.str s.database) (.str s.appUser) (.str s.appPassword) (.str s.appRole)

end SeedSpec

end Bringup
