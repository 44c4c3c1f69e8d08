import Bringup.Proofs.Program.Steps

/-!
# What a program may say and ask

* `Program.Within` : whatever its calls are replied, a program makes remarks and calls of some kinds only;
* `Remark.IsEntry`, `Remark.IsUnprinted` : entries of the log, and all remarks but texts for the output.

There is one rule for each of the ways in which programs are put together.
-/

namespace Bringup

/-- The remark is an entry of the log. -/
def Remark.IsEntry : Remark → Prop
  | .log _ => True
  | .output _ | .error _ => False

/-- The remark is no text for the output. -/
def Remark.IsUnprinted : Remark → Prop
  | .output _ => False
  | .log _ | .error _ => True

theorem Remark.IsEntry.isUnprinted {m : Remark} (h : m.IsEntry) : m.IsUnprinted := by
  cases m with
  | log entry => trivial
  | output text => exact h.elim
  | error text => exact h.elim

namespace Program

variable {α β : Type} {R R' : Remark → Prop} {P P' : Call → Prop} {p : Program α}

/-- Whatever its calls are replied, the program makes remarks as `R` says, and calls as `P` says, only. -/
def Within (R : Remark → Prop) (P : Call → Prop) : Program α → Prop
  | .done _ | .fail _ => True
  | .remark m p => R m ∧ p.Within R P
  | .call c k => P c ∧ ∀ reply, (k reply).Within R P

theorem Within.mono (h : p.Within R P) (hR : ∀ m, R m → R' m) (hP : ∀ c, P c → P' c) :
    p.Within R' P' := by
  induction p with
  | done a => trivial
  | fail e => trivial
  | remark m p ih => exact ⟨hR m h.1, ih h.2⟩
  | call c k ih => exact ⟨hP c h.1, fun reply => ih reply (h.2 reply)⟩

theorem Within.callsIn (h : p.Within R P) : p.CallsIn P := by
  induction p with
  | done a => trivial
  | fail e => trivial
  | remark m p ih => exact ih h.2
  | call c k ih => exact ⟨h.1, fun reply => ih reply (h.2 reply)⟩

theorem within_say {entry : Entry} : (say entry).Within Remark.IsEntry P := ⟨trivial, trivial⟩

theorem within_perform {c : Call} (h : P c) : (perform c).Within R P :=
  ⟨h, fun reply => by cases reply <;> trivial⟩

theorem within_ofExcept {r : Except Failure α} : (ofExcept r).Within R P := by cases r <;> trivial

theorem within_bind {f : α → Program β} (h : p.Within R P) (hf : ∀ a, (f a).Within R P) :
    (p.bind f).Within R P := by
  induction p with
  | done a => exact hf a
  | fail e => trivial
  | remark m p ih => exact ⟨h.1, ih h.2⟩
  | call c k ih => exact ⟨h.1, fun reply => ih reply (h.2 reply)⟩

theorem within_attempt (h : p.Within R P) : p.attempt.Within R P := by
  induction p with
  | done a => trivial
  | fail e => trivial
  | remark m p ih => exact ⟨h.1, ih h.2⟩
  | call c k ih => exact ⟨h.1, fun reply => ih reply (h.2 reply)⟩

theorem within_rescue {handler : Failure → Program α} (h : p.Within R P)
    (hhandler : ∀ e, (handler e).Within R P) : (p.rescue handler).Within R P := by
  refine within_bind (within_attempt h) fun r => ?_
  cases r with
  | ok a => trivial
  | error e =>
    change Within R P (if e.isDriver then handler e else .fail e)
    split
    · exact hhandler e
    · trivial

theorem within_ensuring {last : Program Unit} (h : p.Within R P) (hlast : last.Within R P) :
    (p.ensuring last).Within R P :=
  within_bind (within_attempt h) fun _ => within_bind hlast fun _ => within_ofExcept

theorem within_each {f : α → Program β} {items : List α} (h : ∀ a, (f a).Within R P) :
    (each f items).Within R P := by
  induction items with
  | nil => trivial
  | cons a items ih => exact within_bind (h a) fun _ => within_bind ih fun _ => trivial

end Program

end Bringup
