import Bringup.Proofs.Program.Transcript
import Bringup.Proofs.Server.Store
import Bringup.Failure.Taxonomy
import Mathlib.Tactic.SplitIfs
import Mathlib.Tactic.ByContra

/-!
# Failures of the driver

* `Failure.FromDriver` : the failures that the driver raises, with or without a server;
* `Failure.kindOf_eq_alreadyExists_iff`, `Failure.classify_of_isDriver` : what becomes of them in the
  taxonomy;
* `Server.fromDriver_of_answer` : a server refuses a call with no other failures;
* `Weather.driver` : the weather in which any call may meet any of them, and no reading is sure to see
  anything.
-/

namespace Bringup

namespace Failure

variable {e : Failure} {step : Option String}

/-- The failure is one that the driver raises.  Only a refused operation has a code. -/
def FromDriver (e : Failure) : Prop :=
  ∃ kind message code details cause, e = .ofDriver kind message code details cause

theorem fromDriver_ofDriver (kind : DriverKind) (message : String) (code : Option Int)
    (details : Option Value) (cause : Option Failure) :
    (ofDriver kind message code details cause).FromDriver :=
  ⟨kind, message, code, details, cause, rfl⟩

theorem FromDriver.isDriver (h : e.FromDriver) : e.isDriver = true := by
  obtain ⟨kind, message, code, details, cause, rfl⟩ := h
  unfold ofDriver
  split <;> rfl

/-- A failure of the driver is given a class and a step, and is kept as the cause. -/
theorem classify_of_isDriver (h : e.isDriver = true) :
    e.classify step = .provision e.kindOf e.message step (some e) := by
  cases e with
  | driver => rfl
  | _ => cases h

/-- The class of what is there already is given to just those failures that say so: none of them is a
lost connection. -/
theorem kindOf_eq_alreadyExists_iff (h : e.isDriver = true) :
    e.kindOf = .alreadyExists ↔ e.saysAlreadyExists = true := by
  cases e with
  | driver kind message code details cause =>
    constructor
    · intro hkind
      by_contra hsays
      simp only [kindOf, hsays, ↓reduceIte] at hkind
      split_ifs at hkind
    · intro hsays
      have hconnection : kind.isConnection = false := by
        cases kind <;> simp_all [saysAlreadyExists, DriverKind.isConnection, DriverKind.isOperation]
      simp only [kindOf, hconnection, hsays, Bool.false_eq_true, ↓reduceIte]
  | _ => cases h

/-- A code of an object that is there already says so, as only refused operations have codes. -/
theorem FromDriver.saysAlreadyExists_of_code {code : Int} (h : e.FromDriver)
    (hcode : e.code? = some code) (hmem : code ∈ ServerCode.alreadyExists) :
    e.saysAlreadyExists = true := by
  obtain ⟨kind, message, code', details, cause, rfl⟩ := h
  unfold ofDriver at hcode ⊢
  split at hcode
  -- a refused batch has a code of its own
  · obtain rfl : 65 = code := by simpa [code?] using hcode
    exact absurd hmem (by decide)
  · rename_i hbatch
    rw [if_neg hbatch]
    have hoperation : kind.isOperation = true := by
      by_contra hno
      simp [code?, hno] at hcode
    simp only [code?, hoperation, ↓reduceIte] at hcode
    simp [saysAlreadyExists, hasCode, code?, hoperation, hcode, hmem]

end Failure

/-- The failure of the exchange, if there is one, is one of the driver. -/
def Exchange.FailsByDriver (x : Exchange) : Prop := ∀ e, x.reply = .error e → e.FromDriver

namespace Server

variable {s : Server} {v : Sight} {c : Call} {e : Failure}

/-- A server refuses nothing but to create what is there already. -/
theorem fromDriver_of_answer (h : (s.answer v c).1 = .error e) : e.FromDriver := by
  cases c with
  | command database name value arguments =>
    simp only [answer] at h
    split at h
    · split at h
      · exact Except.error.inj h ▸ Failure.fromDriver_ofDriver ..
      · cases h
    · cases h
  | createCollection database name =>
    rw [answer_createCollection] at h
    split at h
    · exact Except.error.inj h ▸ Failure.fromDriver_ofDriver ..
    · cases h
  | insertIfAbsent database name filter document =>
    rw [answer_insertIfAbsent] at h
    split at h <;> cases h
  | setFields database name filter fields =>
    simp only [answer] at h
    split at h <;> cases h
  | _ => cases h

end Server

namespace Weather

/-- Any call may meet any failure of the driver, and no reader is sure to see anything. -/
def driver : Weather := ⟨fun _ e => e.FromDriver, fun _ => True⟩

/-- In this weather every failure of a call is one of the driver, be it struck or refused. -/
theorem gives_driver : driver.Gives (fun _ => True) Exchange.FailsByDriver where
  struck := fun c e he e' h => by
    obtain rfl := Except.error.inj h
    exact he
  answered := fun _ _ _ _ _ => ⟨fun _ h => Server.fromDriver_of_answer h, trivial⟩

end Weather

/-- A run under one fault of the driver has a transcript in this weather. -/
theorem Program.transcript_fault {α : Type} (p : Program α) (s : Server) {f : Fault}
    (hf : f.failure.FromDriver) : Transcript .driver p s (p.exchanges .clear s [f])
      (p.run .clear s [f]).result (p.run .clear s [f]).server :=
  transcript_run trivial p s [f] fun g hg _ => by
    rw [List.mem_singleton.1 hg]
    exact hf

end Bringup
