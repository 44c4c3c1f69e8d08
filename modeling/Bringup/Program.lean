import Bringup.Log.Entry
import Bringup.Server.Fault
import Bringup.Server.State

/-!
# Programs

* `Program α` : a course of calls and remarks that ends with an `α` or a failure;
* `Program.bind`, `Program.rescue`, `Program.ensuring` : one after the other, with a way out for failures
  of the driver, and with a last act in any case;
* `Program.run` : the course that a program takes against a server, under faults.

A program sees the server only through the replies to its calls.
-/

namespace Bringup

/-- What a program says: an entry of the log, or a text for the output or for the error output. -/
inductive Remark where
  | log (entry : Entry)
  | output (text : String)
  | error (text : String)
  deriving DecidableEq, Repr

/-- A course of calls and remarks, each call with a continuation for every reply. -/
inductive Program (α : Type) where
  | done (a : α)
  | fail (e : Failure)
  | remark (r : Remark) (next : Program α)
  | call (c : Call) (next : Except Failure c.Reply → Program α)

namespace Program

variable {α β : Type}

/-- Goes on with what the program ended with. -/
def bind : Program α → (α → Program β) → Program β
  | .done a, f => f a
  | .fail e, _ => .fail e
  | .remark r p, f => .remark r (p.bind f)
  | .call c k, f => .call c fun r => (k r).bind f

instance : Monad Program where
  pure := .done
  bind := .bind

/-- Makes a call; a failed one fails the program. -/
def perform (c : Call) : Program c.Reply :=
  .call c fun
    | .ok r => .done r
    | .error e => .fail e

/-- Makes an entry of the log. -/
def say (entry : Entry) : Program Unit := .remark (.log entry) (.done ())

/-- Writes a text to the output. -/
def print (text : String) : Program Unit := .remark (.output text) (.done ())

/-- Writes a text to the error output. -/
def complain (text : String) : Program Unit := .remark (.error text) (.done ())

/-- The end of a program as a value: a failure is no longer one. -/
def attempt : Program α → Program (Except Failure α)
  | .done a => .done (.ok a)
  | .fail e => .done (.error e)
  | .remark r p => .remark r p.attempt
  | .call c k => .call c fun r => (k r).attempt

/-- A value or a failure as a program. -/
def ofExcept : Except Failure α → Program α
  | .ok a => .done a
  | .error e => .fail e

/-- Goes on with `handler` where the driver has failed; other failures remain. -/
def rescue (p : Program α) (handler : Failure → Program α) : Program α :=
  p.attempt.bind fun
    | .ok a => .done a
    | .error e => if e.isDriver then handler e else .fail e

/-- Ends with `last` in any case; a failure there takes the place of how the program ended. -/
def ensuring (p : Program α) (last : Program Unit) : Program α :=
  p.attempt.bind fun r => last.bind fun _ => ofExcept r

@[simp] theorem done_bind (a : α) (f : α → Program β) : (Program.done a).bind f = f a := rfl

@[simp] theorem fail_bind (e : Failure) (f : α → Program β) :
    (Program.fail e).bind f = .fail e := rfl

theorem bind_assoc {γ : Type} (p : Program α) (f : α → Program β) (g : β → Program γ) :
    (p.bind f).bind g = p.bind fun a => (f a).bind g := by
  induction p with
  | done a => rfl
  | fail e => rfl
  | remark r p ih => simp only [bind, ih]
  | call c k ih => simp only [bind, ih]

theorem bind_done (p : Program α) : p.bind .done = p := by
  induction p with
  | done a => rfl
  | fail e => rfl
  | remark r p ih => simp only [bind, ih]
  | call c k ih => simp only [bind, ih]

theorem attempt_bind (p : Program α) (f : α → Program β) :
    (p.bind f).attempt = p.attempt.bind fun
      | .ok a => (f a).attempt
      | .error e => .done (.error e) := by
  induction p with
  | done a => rfl
  | fail e => rfl
  | remark r p ih => simp only [bind, attempt, ih]
  | call c k ih => simp only [bind, attempt, ih]

/-- An attempt never fails, and so what comes after it is all that can. -/
theorem attempt_attempt_bind (p : Program α) (f : Except Failure α → Program β) :
    (p.attempt.bind f).attempt = p.attempt.bind fun r => (f r).attempt := by
  induction p with
  | done a => rfl
  | fail e => rfl
  | remark r p ih => simp only [bind, attempt, ih]
  | call c k ih => simp only [bind, attempt, ih]

end Program

/-- What happened in a run: a call was made, or something was said. -/
inductive Event where
  | call (c : Call)
  | remark (r : Remark)

/-- How a program ended, the server and the faults after it, and what happened on the way. -/
structure Run (α : Type) where
  result : Except Failure α
  server : Server
  faults : List Fault
  events : List Event

namespace Run

variable {α : Type}

/-- The same run after one more event. -/
def after (event : Event) (r : Run α) : Run α := { r with events := event :: r.events }

/-- The calls of the run. -/
def calls (r : Run α) : List Call :=
  r.events.filterMap fun
    | .call c => some c
    | .remark _ => none

/-- The remarks of the run. -/
def remarks (r : Run α) : List Remark :=
  r.events.filterMap fun
    | .call _ => none
    | .remark m => some m

/-- The log entries of the run. -/
def entries (r : Run α) : List Entry :=
  r.remarks.filterMap fun
    | .log entry => some entry
    | _ => none

end Run

/-- The course that a program takes.  A call that a fault strikes has no effect. -/
def Program.run {α : Type} (sight : Sight) : Program α → Server → List Fault → Run α
  | .done a, s, faults => ⟨.ok a, s, faults, []⟩
  | .fail e, s, faults => ⟨.error e, s, faults, []⟩
  | .remark m p, s, faults => (p.run sight s faults).after (.remark m)
  | .call c k, s, faults =>
    match Fault.strike c faults with
    | (some e, left) => ((k (.error e)).run sight s left).after (.call c)
    | (none, left) =>
      let (reply, s') := s.answer sight c
      ((k reply).run sight s' left).after (.call c)

end Bringup
