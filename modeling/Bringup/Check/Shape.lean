import Bringup.Check.Scalar

/-!
# Checks of lists, pairs and models

* `Check.list`, `Check.pair` : the items of a list, the two items of a pair;
* `Check.required`, `Check.optional` : the fields of a model;
* `Check.model` : a document whose fields are checked.
-/

namespace Bringup.Check

variable {α β : Type}

/-- A list whose items `check` accepts. -/
def list (check : Value → Checked α) : Value → Checked (List α)
  | .list items => .each check items
  | _ => .problem .notAList

/-- The item at a place of a pair, which must be there. -/
def pairItem (check : Value → Checked α) (index : Nat) (items : List Value) : Checked α :=
  (match items[index]? with
    | some v => check v
    | none => .problem .missing).under (.item index)

/-- A list of exactly two items; those of a longer one are not looked at. -/
def pair (first : Value → Checked α) (second : Value → Checked β) : Value → Checked (α × β)
  | .list items =>
    if 2 < items.length then .problem (.tupleTooLong items.length)
    else Prod.mk <$> pairItem first 0 items <*> pairItem second 1 items
  | _ => .problem .notATuple

/-- A field that must be there. -/
def required (name : String) (check : Value → Checked α) (fields : Fields) : Checked α :=
  (match fields.lookup name with
    | some v => check v
    | none => .problem .missing).under (.field name)

/-- A field that stands for `absent` where it is not there. -/
def optional (name : String) (absent : α) (check : Value → Checked α) (fields : Fields) :
    Checked α :=
  match fields.lookup name with
  | some v => (check v).under (.field name)
  | none => .valid absent

/-- A document whose fields `check` accepts. -/
def model (name : String) (check : Fields → Checked α) : Value → Checked α
  | .doc fields => check fields
  | _ => .problem (.notAModel name)

end Bringup.Check
