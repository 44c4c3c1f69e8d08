import Bringup.Check.Problem

/-!
# Checks that collect every problem

* `Checked α` : an `α`, or the problems that stand in its way;
* its applicative structure puts the problems of both sides one after the other, so that a record built
  from checked fields lists the problems of all fields in their order;
* `Checked.under`, `Checked.refine`, `Checked.each` : a part of a value, a further rule, a list.
-/

namespace Bringup

/-- An `α`, or the problems that stand in its way. -/
inductive Checked (α : Type) where
  | valid (a : α)
  | invalid (problems : List Problem)
  deriving DecidableEq, Repr

namespace Checked

variable {α β : Type}

/-- A single problem of the value itself. -/
def problem (kind : ProblemKind) : Checked α := .invalid [⟨[], kind⟩]

/-- A function of what was found valid. -/
def map (f : α → β) : Checked α → Checked β
  | .valid a => .valid (f a)
  | .invalid ps => .invalid ps

/-- Applies a checked function; the problems of both sides are collected. -/
def apply (f : Checked (α → β)) (x : Checked α) : Checked β :=
  match f, x with
  | .valid f, .valid a => .valid (f a)
  | .valid _, .invalid ps => .invalid ps
  | .invalid ps, .valid _ => .invalid ps
  | .invalid ps, .invalid qs => .invalid (ps ++ qs)

instance : Applicative Checked where
  pure := .valid
  map := map
  seq f x := apply f (x ())

/-- The same result with every problem seen from one step further out. -/
def under (step : PathStep) : Checked α → Checked α
  | .valid a => .valid a
  | .invalid ps => .invalid (ps.map (·.under step))

/-- A further rule for what was found valid. -/
def bind (x : Checked α) (f : α → Checked β) : Checked β :=
  match x with
  | .valid a => f a
  | .invalid ps => .invalid ps

/-- Refuses what was found valid where `fault?` gives a reason. -/
def refine (x : Checked α) (fault? : α → Option String) : Checked α :=
  x.bind fun a =>
    match fault? a with
    | none => .valid a
    | some reason => problem (.refused reason)

/-- Checks the items of a list from the place `index` on. -/
def eachFrom (check : α → Checked β) : Nat → List α → Checked (List β)
  | _, [] => .valid []
  | index, a :: rest =>
    ((check a).under (.item index) |>.map List.cons).apply (eachFrom check (index + 1) rest)

/-- Checks every item of a list. -/
def each (check : α → Checked β) (items : List α) : Checked (List β) := eachFrom check 0 items

/-- What was found valid, or a complaint about the model. -/
def toExcept (model : String) : Checked α → Except Complaint α
  | .valid a => .ok a
  | .invalid ps => .error ⟨model, ps⟩

end Checked

end Bringup
