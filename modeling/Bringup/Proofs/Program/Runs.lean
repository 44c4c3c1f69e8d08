import Bringup.Proofs.Program.Within

/-!
# Runs put together

* `Run.andThen`, `Program.run_bind` : the run of one program after another goes on from where the first
  one ended with a value;
* `Program.run_ensuring`, `Program.result_run_ensuring` : the run of a program with a last act;
* `Run.printed` : the texts that a run writes to the output, apart from the log;
* `Program.Within.of_mem_calls` : what a program may ask bounds what it asks in a run;
* `Program.Within.printed` : a program that only logs and complains prints nothing.

The faults that a run leaves are those that the next one meets, and so a run is given by the server and the
faults at its start.
-/

namespace Bringup

variable {α β : Type}

namespace Run

/-- The run, and where it ended with a value, the next one from there on. -/
def andThen (r : Run α) (next : α → Server → List Fault → Run β) : Run β :=
  match r.result with
  | .ok a => { next a r.server r.faults with events := r.events ++ (next a r.server r.faults).events }
  | .error e => ⟨.error e, r.server, r.faults, r.events⟩

variable {r : Run α} {next : α → Server → List Fault → Run β}

theorem andThen_after (event : Event) :
    (r.after event).andThen next = (r.andThen next).after event := by
  unfold andThen after
  cases r.result <;> rfl

theorem andThen_of_error {e : Failure} (h : r.result = .error e) :
    r.andThen next = ⟨.error e, r.server, r.faults, r.events⟩ := by
  rw [andThen, h]

theorem andThen_of_ok {a : α} (h : r.result = .ok a) : r.andThen next =
    { next a r.server r.faults with
      events := r.events ++ (next a r.server r.faults).events } := by
  rw [andThen, h]

theorem result_andThen_eq_ok_iff {b : β} : (r.andThen next).result = .ok b ↔
    ∃ a, r.result = .ok a ∧ (next a r.server r.faults).result = .ok b := by
  cases h : r.result with
  | ok a =>
    rw [andThen_of_ok h]
    constructor
    · intro hb
      exact ⟨a, rfl, hb⟩
    · rintro ⟨a', ha', hb⟩
      obtain rfl := Except.ok.inj ha'
      exact hb
  | error e =>
    rw [andThen_of_error h]
    exact ⟨nofun, nofun⟩

/-! ### What is printed -/

/-- The texts that are written to the output one by one, apart from the log. -/
def printed (r : Run α) : List String :=
  r.remarks.filterMap fun
    | .output text => some text
    | _ => none

theorem printed_of_events {r' : Run β} (h : r'.events = r.events) : r'.printed = r.printed := by
  rw [printed, printed, remarks, remarks, h]

theorem printed_andThen_of_ok {a : α} (h : r.result = .ok a) :
    (r.andThen next).printed = r.printed ++ (next a r.server r.faults).printed := by
  rw [andThen_of_ok h, printed, remarks, List.filterMap_append, List.filterMap_append]
  rfl

theorem printed_andThen_of_error {e : Failure} (h : r.result = .error e) :
    (r.andThen next).printed = r.printed := by
  rw [andThen_of_error h]
  exact printed_of_events rfl

end Run

namespace Program

variable {sight : Sight} {s : Server} {faults : List Fault}

/-- The run of two programs, the second of which is told the value of the first. -/
theorem run_bind (p : Program α) (f : α → Program β) (s : Server) (faults : List Fault) :
    (p.bind f).run sight s faults =
      (p.run sight s faults).andThen fun a t left => (f a).run sight t left := by
  induction p generalizing s faults with
  | done a => rfl
  | fail e => rfl
  | remark m p ih =>
    simp only [bind, run, ih, Run.andThen_after]
  | call c k ih =>
    simp only [bind, run]
    split <;> simp only [ih, Run.andThen_after]

/-- How a program ends is the value of its attempt. -/
theorem run_attempt (p : Program α) (s : Server) (faults : List Fault) :
    p.attempt.run sight s faults =
      { p.run sight s faults with result := .ok (p.run sight s faults).result } := by
  induction p generalizing s faults with
  | done a => rfl
  | fail e => rfl
  | remark m p ih =>
    simp only [attempt, run, ih]
    rfl
  | call c k ih =>
    simp only [attempt, run]
    split <;> simp only [ih] <;> rfl

variable {p : Program α} {last : Program Unit}

/-- The last act goes on from where the program ended, however it did. -/
theorem run_ensuring : (p.ensuring last).run sight s faults =
    Run.andThen { p.run sight s faults with result := .ok (p.run sight s faults).result }
      fun r t left => (last.run sight t left).andThen fun _ t left => (ofExcept r).run sight t left := by
  rw [ensuring, run_bind, run_attempt]
  simp only [run_bind]

theorem run_ofExcept (r : Except Failure α) :
    (ofExcept r).run sight s faults = ⟨r, s, faults, []⟩ := by
  cases r <;> rfl

/-- A program with a last act ends with a value just when both do. -/
theorem result_run_ensuring {a : α} : ((p.ensuring last).run sight s faults).result = .ok a ↔
    (p.run sight s faults).result = .ok a ∧
      (last.run sight (p.run sight s faults).server (p.run sight s faults).faults).result = .ok () := by
  rw [run_ensuring, Run.andThen_of_ok rfl]
  simp only [Run.result_andThen_eq_ok_iff, run_ofExcept]
  constructor
  · rintro ⟨_, hlast, hp⟩
    exact ⟨hp, hlast⟩
  · rintro ⟨hp, hlast⟩
    exact ⟨(), hlast, hp⟩

/-- The calls of a run are calls that the program may make. -/
theorem Within.of_mem_calls {R : Remark → Prop} {P : Call → Prop} {p : Program α} (h : p.Within R P)
    {c : Call} (hc : c ∈ (p.run sight s faults).calls) : P c := by
  induction p generalizing s faults with
  | done a => cases hc
  | fail e => cases hc
  | remark m p ih => exact ih h.2 hc
  | call d k ih =>
    rw [run] at hc
    split at hc
    · obtain rfl | hc := List.mem_cons.1 hc
      · exact h.1
      · exact ih _ (h.2 _) hc
    · obtain rfl | hc := List.mem_cons.1 hc
      · exact h.1
      · exact ih _ (h.2 _) hc

/-- A program that says nothing to the output prints nothing. -/
theorem Within.printed {P : Call → Prop} {p : Program α} (h : p.Within Remark.IsUnprinted P) (sight : Sight)
    (s : Server) (faults : List Fault) : (p.run sight s faults).printed = [] := by
  induction p generalizing s faults with
  | done a => rfl
  | fail e => rfl
  | remark m p ih =>
    obtain ⟨hm, hp⟩ := h
    cases m with
    | output text => exact hm.elim
    | log entry => exact ih hp s faults
    | error text => exact ih hp s faults
  | call c k ih =>
    rw [run]
    split
    · exact ih _ (h.2 _) s _
    · exact ih _ (h.2 _) _ _

end Program

end Bringup
