import Bringup.Check.Shape
import Bringup.Value.Equal

/-!
# Seed roles

* `RoleSeed` : a role document that must be there, found by its code;
* `RoleSeed.content`, `RoleSeed.document` : the fields that the seed owns, and the document as inserted;
* `RoleSeed.differs` : a stored document is not as the seed has it;
* `RoleSeed.check` : such a declaration from a value; permissions lose later repetitions.
-/

namespace Bringup

/-- A declared role document. -/
structure RoleSeed where
  code : String
  name : String
  description : String
  permissions : List String
  deriving DecidableEq, Repr

namespace RoleSeed

/-- The permission that stands for all. -/
def allPermissions : String := "*"

/-- Whether the role grants everything. -/
def grantsAll (r : RoleSeed) : Bool := r.permissions.contains allPermissions

/-- The fields that the seed owns. -/
def content (r : RoleSeed) : Fields :=
  [("name", .str r.name), ("description", .str r.description),
    ("permissions", .texts r.permissions)]

/-- The document as inserted; both times are the same instant. -/
def document (r : RoleSeed) (now : Instant) : Fields :=
  ("code", .str r.code) :: r.content ++ [("created_at", .date now), ("updated_at", .date now)]

/-- A stored document lacks a field of the seed or has another value in it. -/
def differs (r : RoleSeed) (stored : Fields) : Bool :=
  r.content.any fun (field, value) => !((stored.lookup field).getD .null).equal value

/-- Permissions without later repetitions; `seen` are those before them. -/
def distinctFrom (seen : List String) : List String → Checked (List String)
  | [] => .valid []
  | p :: rest =>
    if isBlankText p then .problem (.refused "Permission entries must not be empty")
    else if p ∈ seen then distinctFrom seen rest
    else (distinctFrom (p :: seen) rest).map (p :: ·)

/-- Permissions without later repetitions; none may be blank. -/
def distinctPermissions (permissions : List String) : Checked (List String) :=
  distinctFrom [] permissions

/-- A role declaration from a value. -/
def check : Value → Checked RoleSeed :=
  Check.model "RoleSeed" fun fields =>
    RoleSeed.mk
      <$> Check.required "code" Check.filledText fields
      <*> Check.required "name" Check.filledText fields
      <*> Check.optional "description" "" Check.text fields
      <*> Check.optional "permissions" []
        (fun v => (Check.list Check.text v).bind distinctPermissions) fields

end RoleSeed

end Bringup
