import Bringup.Check.Scalar
import Bringup.Failure.Basic
import Bringup.Number.Places
import Bringup.Value.Equal

/-!
# Reports of a run

* `Step`, `Action`, `Outcome` : what one step did to one object;
* `Outcome.ofValues` : an outcome from values that name its parts;
* `Report` : the outcomes of a run in their order, and when it began and ended;
* `Report.summary`, `Report.changedAnything`, `Report.duration?`.
-/

namespace Bringup

/-- The steps of a run in their order. -/
inductive Step where
  | principal
  | collections
  | indexes
  | seed
  deriving DecidableEq, Repr

/-- What a step did to one object. -/
inductive Action where
  | created
  | skipped
  | updated
  | unchanged
  deriving DecidableEq, Repr

/-- All steps. -/
def Step.all : List Step := [.principal, .collections, .indexes, .seed]

/-- The name of a step. -/
def Step.name : Step → String
  | .principal => "principal"
  | .collections => "collections"
  | .indexes => "indexes"
  | .seed => "seed"

/-- All actions. -/
def Action.all : List Action := [.created, .skipped, .updated, .unchanged]

/-- The name of an action. -/
def Action.name : Action → String
  | .created => "created"
  | .skipped => "skipped"
  | .updated => "updated"
  | .unchanged => "unchanged"

/-- What one step did to one object. -/
structure Outcome where
  step : Step
  target : String
  action : Action
  deriving DecidableEq, Repr

/-- The step that a value names. -/
def Step.ofValue (v : Value) : Except Failure Step :=
  match Step.all.find? fun s => v.equal (.str s.name) with
  | some s => .ok s
  | none => .error (.ofRuntime .value s!"{v.inspect} is not a valid Step")

/-- The action that a value names. -/
def Action.ofValue (v : Value) : Except Failure Action :=
  match Action.all.find? fun a => v.equal (.str a.name) with
  | some a => .ok a
  | none => .error (.ofRuntime .value s!"{v.inspect} is not a valid Action")

/-- The outcome that values name; its target must be a text. -/
def Outcome.ofValues (step target action : Value) : Except Failure Outcome := do
  let step ← Step.ofValue step
  let action ← Action.ofValue action
  match ((Check.text target).under (.field "target")).toExcept "StepOutcome" with
  | .ok target => .ok ⟨step, target, action⟩
  | .error c => .error (.invalid c)

/-- The report of a run. -/
structure Report where
  database : String
  policy : String
  started : Instant
  finished : Option Instant
  outcomes : List Outcome
  deriving DecidableEq, Repr

namespace Report

/-- The report of a run that has just begun. -/
def start (database policy : String) (now : Instant) : Report := ⟨database, policy, now, none, []⟩

/-- The report with one more outcome. -/
def record (r : Report) (o : Outcome) : Report := { r with outcomes := r.outcomes ++ [o] }

/-- The report of a run that has just ended. -/
def finish (r : Report) (now : Instant) : Report := { r with finished := some now }

/-- How often something was done, in one step or in all. -/
def count (r : Report) (action : Action) (step : Option Step) : Nat :=
  r.outcomes.countP fun o => o.action = action ∧ (step = none ∨ step = some o.step)

/-- The outcomes of a step. -/
def ofStep (r : Report) (step : Step) : List Outcome := r.outcomes.filter (·.step = step)

/-- Whether anything was created or updated. -/
def changedAnything (r : Report) : Bool :=
  r.outcomes.any fun o => o.action = .created ∨ o.action = .updated

/-- The seconds from start to end, when the run has ended. -/
def duration? (r : Report) : Option Binary64 := r.finished.map (r.started.secondsBetween ·)

/-- The seconds from start to end, none before the end, to so many places. -/
def durationText (r : Report) (places : Nat) : String :=
  (r.duration?.getD (.zero false)).fixedText places

/-- The report on one line. -/
def summary (r : Report) : String :=
  let count (action : Action) : String := toString (r.count action none)
  s!"database={r.database} created={count .created} updated={count .updated} "
    ++ s!"skipped={count .skipped} unchanged={count .unchanged}"

end Report

end Bringup
