import Bringup.Check.Shape

/-!
# The application principal

* `PrincipalSpec` : a user with a secret, and the role it is granted on one database;
* `PrincipalSpec.check` : such a declaration from a value.
-/

namespace Bringup

/-- A declared user. -/
structure PrincipalSpec where
  name : String
  secret : String
  role : String
  grantDatabase : String
  deriving DecidableEq, Repr

namespace PrincipalSpec

/-- The grants of the user: one role on one database. -/
def roleGrants (p : PrincipalSpec) : Value :=
  .list [.doc [("role", .str p.role), ("db", .str p.grantDatabase)]]

/-- What is shown in place of a secret. -/
def maskedSecret (p : PrincipalSpec) : String := if p.secret.isEmpty then "" else "**********"

/-- A user declaration from a value. -/
def check : Value → Checked PrincipalSpec :=
  Check.model "PrincipalSpec" fun fields =>
    PrincipalSpec.mk
      <$> Check.required "name" Check.filledText fields
      <*> Check.required "secret" Check.text fields
      <*> Check.optional "role" "readWrite" Check.filledText fields
      <*> Check.required "grant_db" Check.filledText fields

end PrincipalSpec

end Bringup
