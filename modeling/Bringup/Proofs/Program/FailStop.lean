import Bringup.Provision

/-!
# Programs that stop at a failure

* `Program.Dies` : nothing but remarks remain, and then the program fails;
* `Program.Plain` : a program that handles no failure; it fails with the failure of its first failed call;
* `Program.FailStop` : a failed call ends a program unless its failure is one that is recovered from;
* `Fault.single` : a fault that strikes one call of a run and no other;
* `Program.StopsAt`, `Program.FailStop.stopsAt` : the run under such a fault makes the calls of the
  undisturbed run up to this one, fails, and leaves the server as it was just before the call.
-/

namespace Bringup

namespace Program

variable {α β : Type}

/-- Nothing but remarks remain, and then the program fails. -/
def Dies : Program α → Prop
  | .done _ => False
  | .fail _ => True
  | .remark _ p => p.Dies
  | .call _ _ => False

/-- The calls are of some kind, and each failed one fails the program with its own failure. -/
def Plain (P : Call → Prop) : Program α → Prop
  | .done _ | .fail _ => True
  | .remark _ p => p.Plain P
  | .call c k => P c ∧ (∀ e, k (.error e) = .fail e) ∧ ∀ r, (k r).Plain P

/-- A failed call ends the program unless it is recovered from. -/
def FailStop (R : Call → Failure → Prop) : Program α → Prop
  | .done _ | .fail _ => True
  | .remark _ p => p.FailStop R
  | .call c k => (∀ e, ¬ R c e → (k (.error e)).Dies) ∧ ∀ r, (k r).FailStop R

variable {P : Call → Prop} {R : Call → Failure → Prop}

/-! ### Rules -/

theorem dies_bind {p : Program α} {f : α → Program β} (h : p.Dies) : (p.bind f).Dies := by
  induction p with
  | done a => exact h.elim
  | fail e => exact h
  | remark m p ih => exact ih h
  | call c k => exact h.elim

theorem Dies.failStop {p : Program α} (h : p.Dies) : p.FailStop R := by
  induction p with
  | done a => exact h.elim
  | fail e => trivial
  | remark m p ih => exact ih h
  | call c k => exact h.elim

theorem plain_perform {c : Call} (h : P c) : (perform c).Plain P := by
  refine ⟨h, fun _ => rfl, fun r => ?_⟩
  cases r <;> trivial

theorem plain_bind {p : Program α} {f : α → Program β} (h : p.Plain P) (hf : ∀ a, (f a).Plain P) :
    (p.bind f).Plain P := by
  induction p with
  | done a => exact hf a
  | fail e => trivial
  | remark m p ih => exact ih h
  | call c k ih =>
    obtain ⟨hc, herror, hk⟩ := h
    exact ⟨hc, fun e => by simp only [herror, fail_bind], fun r => ih r (hk r)⟩

theorem Plain.failStop {p : Program α} (h : p.Plain P) : p.FailStop R := by
  induction p with
  | done a => trivial
  | fail e => trivial
  | remark m p ih => exact ih h
  | call c k ih =>
    obtain ⟨-, herror, hk⟩ := h
    exact ⟨fun e _ => by rw [herror]; trivial, fun r => ih r (hk r)⟩

theorem failStop_bind {p : Program α} {f : α → Program β} (h : p.FailStop R)
    (hf : ∀ a, (f a).FailStop R) : (p.bind f).FailStop R := by
  induction p with
  | done a => exact hf a
  | fail e => trivial
  | remark m p ih => exact ih h
  | call c k ih => exact ⟨fun e he => dies_bind (h.1 e he), fun r => ih r (h.2 r)⟩

theorem failStop_each {f : α → Program β} {items : List α} (h : ∀ a, (f a).FailStop R) :
    (each f items).FailStop R := by
  induction items with
  | nil => trivial
  | cons a items ih => exact failStop_bind (h a) fun b => failStop_bind ih fun bs => trivial

/-- The rule for a handler: it must end the program unless the failure is recovered from. -/
theorem failStop_rescue {p : Program α} {handler : Failure → Program α} (h : p.Plain P)
    (hdies : ∀ c e, P c → e.isDriver = true → ¬ R c e → (handler e).Dies)
    (hhandler : ∀ e, (handler e).FailStop R) : (p.rescue handler).FailStop R := by
  unfold rescue
  induction p with
  | done a => trivial
  | fail e =>
    change FailStop R (if e.isDriver then handler e else .fail e)
    split
    · exact hhandler e
    · trivial
  | remark m p ih => exact ih h
  | call c k ih =>
    obtain ⟨hc, herror, hk⟩ := h
    refine ⟨fun e he => ?_, fun r => ih r (hk r)⟩
    -- a plain program leaves the failure of its call to the handler as it is
    change Dies ((k (.error e)).rescue handler)
    rw [herror]
    change Dies (if e.isDriver then handler e else .fail e)
    split
    · rename_i hdriver
      exact hdies c e hc hdriver he
    · trivial

end Program

/-! ### Runs in which one call fails -/

/-- The server after some calls that nothing struck. -/
def Server.afterCalls (s : Server) (calls : List Call) : Server :=
  calls.foldl (fun t c => (t.answer .clear c).2) s

/-- A fault that lets the first `k` of the calls pass, and then strikes the call `c` once. -/
def Fault.single (calls : List Call) (k : Nat) (c : Call) (e : Failure) : Fault :=
  ⟨c.kind, none, (calls.take k).countP fun d => d.kind = c.kind, 1, e⟩

/-- The fault strikes when its call is made. -/
theorem Fault.strike_single_zero (calls : List Call) (c : Call) (e : Failure) :
    ∃ left, Fault.strike c [Fault.single calls 0 c e] = (some e, left) := by
  refine ⟨[{ Fault.single calls 0 c e with times := 0 }], ?_⟩
  simp [Fault.strike, Fault.single, Fault.fits]

/-- The fault lets every call before its own pass. -/
theorem Fault.strike_single_succ (calls : List Call) (k : Nat) (c d : Call) (e : Failure) :
    Fault.strike d [Fault.single (d :: calls) (k + 1) c e] = (none, [Fault.single calls k c e]) := by
  -- a call of the same kind is counted, and any other is not looked at
  by_cases hkind : d.kind = c.kind
  · simp [Fault.strike, Fault.single, Fault.fits, hkind]
  · simp [Fault.strike, Fault.single, Fault.fits, hkind, Ne.symm hkind]

namespace Run

variable {α : Type}

@[simp] theorem calls_after_call (c : Call) (r : Run α) :
    (r.after (.call c)).calls = c :: r.calls := rfl

end Run

namespace Program

variable {α β : Type} {R R' : Call → Failure → Prop} {s : Server} {k : Nat} {c d : Call} {e : Failure}

theorem Dies.run {p : Program α} (h : p.Dies) (s : Server) (faults : List Fault) :
    (p.run .clear s faults).result.isOk = false ∧ (p.run .clear s faults).calls = [] ∧
      (p.run .clear s faults).server = s := by
  induction p with
  | done a => exact h.elim
  | fail e => exact ⟨rfl, rfl, rfl⟩
  | remark m p ih => exact ih h
  | call c k => exact h.elim

/-- The run in which the call `c` at position `k` fails with `e`, and no other, makes the calls of the
undisturbed run up to this one and fails, and the server is as it was before the call. -/
def StopsAt (p : Program α) (s : Server) (k : Nat) (c : Call) (e : Failure) : Prop :=
  let calls := (p.run .clear s []).calls
  let struck := p.run .clear s [Fault.single calls k c e]
  struck.result.isOk = false ∧ struck.calls = calls.take (k + 1) ∧
    struck.server = s.afterCalls (calls.take k)

theorem stopsAt_zero {next : Except Failure c.Reply → Program α} (h : (next (.error e)).Dies) :
    (Program.call c next).StopsAt s 0 c e := by
  unfold StopsAt
  intro calls struck
  obtain ⟨left, hstrike⟩ := Fault.strike_single_zero calls c e
  have hstruck : struck = ((next (.error e)).run .clear s left).after (.call c) := by
    change Program.run .clear (.call c next) s [Fault.single calls 0 c e] = _
    rw [Program.run, hstrike]
  have hcalls : calls.take 1 = [c] := rfl
  obtain ⟨hresult, hnone, hserver⟩ := h.run s left
  rw [hstruck, hcalls, Run.calls_after_call, hnone]
  exact ⟨hresult, rfl, hserver⟩

theorem stopsAt_succ {next : Except Failure d.Reply → Program α}
    (h : (next (s.answer .clear d).1).StopsAt (s.answer .clear d).2 k c e) :
    (Program.call d next).StopsAt s (k + 1) c e := by
  unfold StopsAt
  intro calls struck
  have hcalls : calls =
      d :: ((next (s.answer .clear d).1).run .clear (s.answer .clear d).2 []).calls := rfl
  have hstruck : struck = ((next (s.answer .clear d).1).run .clear (s.answer .clear d).2
      [Fault.single ((next (s.answer .clear d).1).run .clear (s.answer .clear d).2 []).calls k c
        e]).after (.call d) := by
    change Program.run .clear (.call d next) s [Fault.single calls (k + 1) c e] = _
    rw [Program.run, hcalls, Fault.strike_single_succ]
  obtain ⟨hresult, htake, hserver⟩ := h
  rw [hstruck, hcalls, Run.calls_after_call, htake]
  exact ⟨hresult, rfl, hserver⟩

/-- Every call whose failure is not recovered from stops the program. -/
theorem FailStop.stopsAt {p : Program α} (h : p.FailStop R)
    (hc : (p.run .clear s []).calls[k]? = some c) (he : ¬ R c e) : p.StopsAt s k c e := by
  induction p generalizing s k with
  | done a => cases hc
  | fail e => cases hc
  | remark m p ih => exact ih h hc
  | call d next ih =>
    cases k with
    | zero =>
      obtain rfl : d = c := Option.some.inj hc
      exact stopsAt_zero (h.1 e he)
    | succ k => exact stopsAt_succ (ih _ (h.2 _) hc)

/-- The same for two programs one after the other that recover from different failures. -/
theorem FailStop.stopsAt_bind {p : Program α} {f : α → Program β} (hp : p.FailStop R)
    (hf : ∀ a, (f a).FailStop R') (hc : ((p.bind f).run .clear s []).calls[k]? = some c)
    (he : if k < (p.run .clear s []).calls.length then ¬ R c e else ¬ R' c e) :
    (p.bind f).StopsAt s k c e := by
  induction p generalizing s k with
  -- the first program has made its calls, and the rest are calls of the second
  | done a => exact (hf a).stopsAt hc he
  | fail e => cases hc
  | remark m p ih => exact ih hp hc he
  | call d next ih =>
    cases k with
    | zero =>
      obtain rfl : d = c := Option.some.inj hc
      exact stopsAt_zero (dies_bind (hp.1 e he))
    | succ k =>
      refine stopsAt_succ (ih _ (hp.2 _) hc ?_)
      have hlength : ((Program.call d next).run .clear s []).calls.length =
          ((next (s.answer .clear d).1).run .clear (s.answer .clear d).2 []).calls.length + 1 := rfl
      simpa only [hlength, Nat.add_lt_add_iff_right] using he

end Program

end Bringup
