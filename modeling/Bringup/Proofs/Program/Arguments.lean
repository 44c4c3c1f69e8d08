import Bringup.Proofs.Program.Runs

/-!
# The arguments of commands

* `Call.mapArguments`, `Program.mapArguments` : the same calls with other arguments for the commands;
* `Program.run_mapArguments` : a run differs in nothing but the arguments that it gives.

Neither a fault nor the answer of the server depends on the arguments of a command, and so a program that
gives others goes on in the same way.
-/

namespace Bringup

variable {α β : Type} {f : String → Fields → Fields}

/-- The call, and if it is a command, with the arguments that `f` makes of its name and its arguments. -/
def Call.mapArguments (f : String → Fields → Fields) : Call → Call
  | .command db name value arguments => .command db name value (f name arguments)
  | c => c

theorem Call.mapArguments_of_kind_ne {c : Call} (h : c.kind ≠ .command) : c.mapArguments f = c := by
  cases c with
  | command => exact absurd rfl h
  | _ => rfl

/-- The event, with other arguments if it is a command. -/
def Event.mapArguments (f : String → Fields → Fields) : Event → Event
  | .call c => .call (c.mapArguments f)
  | .remark m => .remark m

/-- The run, with other arguments for its commands. -/
def Run.mapArguments (f : String → Fields → Fields) (r : Run α) : Run α :=
  { r with events := r.events.map (Event.mapArguments f) }

theorem Run.mapArguments_after (event : Event) (r : Run α) :
    (r.after event).mapArguments f = (r.mapArguments f).after (event.mapArguments f) := rfl

namespace Program

/-- The program that gives its commands the arguments that `f` makes of their names and arguments. -/
def mapArguments (f : String → Fields → Fields) : Program α → Program α
  | .done a => .done a
  | .fail e => .fail e
  | .remark m p => .remark m (p.mapArguments f)
  | .call (.command db name value arguments) k =>
    .call (.command db name value (f name arguments)) fun reply => (k reply).mapArguments f
  | .call c k => .call c fun reply => (k reply).mapArguments f

theorem mapArguments_call {c : Call} (h : c.kind ≠ .command) (k : Except Failure c.Reply → Program α) :
    (Program.call c k).mapArguments f = .call c fun reply => (k reply).mapArguments f := by
  cases c with
  | command => exact absurd rfl h
  | _ => rfl

/-! ### Programs put together -/

theorem mapArguments_bind {p p' : Program α} {g g' : α → Program β} (hp : p' = p.mapArguments f)
    (hg : ∀ a, g' a = (g a).mapArguments f) : p'.bind g' = (p.bind g).mapArguments f := by
  subst hp
  obtain rfl : g' = fun a => (g a).mapArguments f := funext hg
  induction p with
  | done a => rfl
  | fail e => rfl
  | remark m p ih => exact congrArg (Program.remark m) ih
  | call c k ih =>
    cases c with
    | command => exact congrArg (Program.call _) (funext ih)
    | _ => exact congrArg (Program.call _) (funext ih)

theorem mapArguments_attempt (p : Program α) :
    (p.mapArguments f).attempt = p.attempt.mapArguments f := by
  induction p with
  | done a => rfl
  | fail e => rfl
  | remark m p ih => exact congrArg (Program.remark m) ih
  | call c k ih =>
    cases c with
    | command => exact congrArg (Program.call _) (funext ih)
    | _ => exact congrArg (Program.call _) (funext ih)

theorem mapArguments_rescue {p p' : Program α} {handler handler' : Failure → Program α}
    (hp : p' = p.mapArguments f) (hhandler : ∀ e, handler' e = (handler e).mapArguments f) :
    p'.rescue handler' = (p.rescue handler).mapArguments f := by
  subst hp
  refine mapArguments_bind (mapArguments_attempt p) fun r => ?_
  cases r with
  | ok a => rfl
  | error e =>
    change (if e.isDriver then handler' e else .fail e)
      = (if e.isDriver then handler e else .fail e).mapArguments f
    split
    · exact hhandler e
    · rfl

/-- A program that gives no commands is not changed. -/
theorem Within.mapArguments {R : Remark → Prop} {P : Call → Prop} {p : Program α} (h : p.Within R P)
    (hP : ∀ c, P c → c.kind ≠ .command) : p = p.mapArguments f := by
  induction p with
  | done a => rfl
  | fail e => rfl
  | remark m p ih => exact congrArg (Program.remark m) (ih h.2)
  | call c k ih =>
    rw [mapArguments_call (hP c h.1)]
    exact congrArg (Program.call c) (funext fun reply => ih reply (h.2 reply))

theorem mapArguments_perform {c : Call} (h : c.kind ≠ .command) :
    perform c = (perform c).mapArguments f :=
  Within.mapArguments (R := fun _ => True) (within_perform h) fun _ hne => hne

/-! ### Runs -/

/-- Faults look at the kind of a call and at the object that it names. -/
theorem strike_mapArguments (c : Call) (faults : List Fault) :
    Fault.strike (c.mapArguments f) faults = Fault.strike c faults := by
  induction faults with
  | nil => rfl
  | cons fault rest ih =>
    have hfits : fault.fits (c.mapArguments f) = fault.fits c := by cases c <;> rfl
    rw [Fault.strike, Fault.strike, hfits, ih]

/-- The program ends as before, and leaves the server and the faults as before; what happens on the way
differs in the arguments of commands. -/
theorem run_mapArguments (p : Program α) (sight : Sight) (s : Server) (faults : List Fault) :
    (p.mapArguments f).run sight s faults = (p.run sight s faults).mapArguments f := by
  induction p generalizing s faults with
  | done a => rfl
  | fail e => rfl
  | remark m p ih => exact congrArg (Run.after _) (ih s faults)
  | call c k ih =>
    -- a command is struck by the same faults and gets the same reply with other arguments
    by_cases hc : c.kind = .command
    · cases c with
      | command db name value arguments =>
        have hstrike : Fault.strike (.command db name value (f name arguments)) faults
            = Fault.strike (.command db name value arguments) faults :=
          strike_mapArguments (.command db name value arguments) faults
        rw [mapArguments, run, run, hstrike]
        cases Fault.strike (.command db name value arguments) faults with
        | mk struck left =>
          cases struck with
          | some e => exact congrArg (Run.after _) (ih _ s left)
          | none => exact congrArg (Run.after _) (ih _ _ left)
      | _ => cases hc
    · have hafter (r : Run α) :
          (r.after (.call c)).mapArguments f = (r.mapArguments f).after (.call c) := by
        rw [Run.mapArguments_after, Event.mapArguments, Call.mapArguments_of_kind_ne hc]
      rw [mapArguments_call hc, run, run]
      cases Fault.strike c faults with
      | mk struck left =>
        cases struck with
        | some e => exact (congrArg (Run.after _) (ih _ s left)).trans (hafter _).symm
        | none =>
          exact (congrArg (Run.after _) (ih _ (s.answer sight c).2 left)).trans (hafter _).symm

end Program

namespace Run

variable {r : Run α}

@[simp] theorem remarks_mapArguments : (r.mapArguments f).remarks = r.remarks := by
  rw [remarks, remarks, mapArguments, List.filterMap_map]
  refine List.filterMap_congr fun event _ => ?_
  cases event <;> rfl

@[simp] theorem calls_mapArguments :
    (r.mapArguments f).calls = r.calls.map (Call.mapArguments f) := by
  rw [calls, calls, mapArguments, List.filterMap_map, List.map_filterMap]
  refine List.filterMap_congr fun event _ => ?_
  cases event <;> rfl

end Run

end Bringup
