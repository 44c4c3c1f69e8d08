import Bringup.Proofs.Program.Halting
import Bringup.Proofs.Program.Steps

/-!
# Two runs side by side

* `EndsAlike` : two programs both end with values or both with failures, and these and the servers are
  related;
* `Program.Agree` : two programs end so when they run without faults, each from a server of its own and
  with a sight of its own;
* `Program.agree_of_assures` : what each of them assures by itself may be all that is needed;
* `Program.agree_self` : a program agrees with itself where its calls are answered alike; from the same
  server it does by `Program.agree_refl`;
* `Program.Agree.and_left` : what the first of them assures is known besides.

The rules `agree_bind`, `agree_rescue` and `agree_each` lead both programs from one related pair of servers
to the next.  Where only one of them makes a call, `agree_answered_left` brings it forward.
-/

namespace Bringup

variable {α β γ δ : Type}

/-- Two programs have both ended with a value or both with a failure, and what they ended with is related,
with the servers after them. -/
def EndsAlike (R : α → β → Server → Server → Prop) (E : Failure → Failure → Server → Server → Prop) :
    Except Failure α → Except Failure β → Server → Server → Prop
  | .ok a, .ok b, s, t => R a b s t
  | .error e, .error e', s, t => E e e' s t
  | _, _, _, _ => False

namespace Program

/-- Without faults, the first program from `s` and the second one from `t` end alike. -/
def Agree (v w : Sight) (R : α → β → Server → Server → Prop)
    (E : Failure → Failure → Server → Server → Prop) (p : Program α) (q : Program β) (s t : Server) :
    Prop :=
  EndsAlike R E (p.run v s []).result (q.run w t []).result (p.run v s []).server (q.run w t []).server

/-- Two programs have the same failure, and are at the same server. -/
def SameEnd (e e' : Failure) (s t : Server) : Prop := e' = e ∧ t = s

variable {v w : Sight} {R R' : α → β → Server → Server → Prop}
  {E E' : Failure → Failure → Server → Server → Prop} {p : Program α} {q : Program β} {s s' t : Server}

/-! ### Rules -/

theorem agree_say {m m' : Entry} {R : Unit → Unit → Server → Server → Prop} (h : R () () s t) :
    (say m).Agree v w R E (say m') s t := h

theorem Agree.mono (h : p.Agree v w R E q s t) (hR : ∀ a b s t, R a b s t → R' a b s t)
    (hE : ∀ e e' s t, E e e' s t → E' e e' s t) : p.Agree v w R' E' q s t := by
  unfold Agree EndsAlike at h ⊢
  split at h
  · exact hR _ _ _ _ h
  · exact hE _ _ _ _ h
  · exact h.elim

/-- The server after a program and what goes on from its value. -/
theorem server_run_bind {f : α → Program γ} : ((p.bind f).run v s []).server =
    match (p.run v s []).result with
    | .ok a => ((f a).run v (p.run v s []).server []).server
    | .error _ => (p.run v s []).server := by
  rw [run_bind]
  cases h : (p.run v s []).result with
  | ok a => rw [Run.andThen_of_ok h, faults_run_nil]
  | error e => rw [Run.andThen_of_error h]

theorem agree_bind {f : α → Program γ} {g : β → Program δ} {R' : γ → δ → Server → Server → Prop}
    (h : p.Agree v w R E q s t) (hfg : ∀ a b s t, R a b s t → (f a).Agree v w R' E (g b) s t) :
    (p.bind f).Agree v w R' E (q.bind g) s t := by
  unfold Agree at h ⊢
  rw [server_run_bind, server_run_bind]
  cases hp : (p.run v s []).result with
  | ok a =>
    cases hq : (q.run w t []).result with
    | ok b =>
      rw [hp, hq] at h
      rw [(run_bind_of_ok hp).1, (run_bind_of_ok hq).1]
      exact hfg a b _ _ h
    | error e => rw [hp, hq] at h; exact h.elim
  | error e =>
    cases hq : (q.run w t []).result with
    | ok b => rw [hp, hq] at h; exact h.elim
    | error e' =>
      rw [hp, hq] at h
      rw [(run_bind_of_error hp).1, (run_bind_of_error hq).1]
      exact h

/-- The rule for two ways out that are taken for the same failures. -/
theorem agree_rescue {handler : Failure → Program α} {handler' : Failure → Program β}
    (h : p.Agree v w R (fun e e' s t => e' = e ∧ if e.isDriver then
      (handler e).Agree v w R E (handler' e) s t else E e e s t) q s t) :
    (p.rescue handler).Agree v w R E (q.rescue handler') s t := by
  -- the ways out are taken after the attempts, and these agree as the hypothesis says
  have hattempt : p.attempt.Agree v w (fun x y s t => EndsAlike R (fun e e' s t => e' = e ∧
      if e.isDriver then (handler e).Agree v w R E (handler' e) s t else E e e s t) x y s t)
      E q.attempt s t := by
    unfold Agree at h ⊢
    rw [run_attempt, run_attempt]
    exact h
  refine agree_bind hattempt fun x y s t hxy => ?_
  cases x with
  | ok a =>
    cases y with
    | ok b => exact hxy
    | error e => exact hxy.elim
  | error e =>
    cases y with
    | ok b => exact hxy.elim
    | error e' =>
      obtain ⟨rfl, hhandler⟩ := hxy
      change Agree v w R E (if e'.isDriver then handler e' else .fail e')
        (if e'.isDriver then handler' e' else .fail e') s t
      by_cases hdriver : e'.isDriver = true
      · rw [if_pos hdriver] at hhandler
        rw [if_pos hdriver, if_pos hdriver]
        exact hhandler
      · rw [if_neg hdriver] at hhandler
        rw [if_neg hdriver, if_neg hdriver]
        exact hhandler

/-- The rule for two loops over the same items. -/
theorem agree_each {items : List α} {f : α → Program γ} {g : α → Program δ}
    {inv : Server → Server → Prop} {link : γ → δ → Prop}
    (step : ∀ a ∈ items, ∀ s t, inv s t →
      (f a).Agree v w (fun c d s t => inv s t ∧ link c d) E (g a) s t) (start : inv s t) :
    (each f items).Agree v w (fun cs ds s t => inv s t ∧ List.Forall₂ link cs ds) E (each g items) s t := by
  induction items generalizing s t with
  | nil => exact ⟨start, .nil⟩
  | cons a items ih =>
    refine agree_bind (step a List.mem_cons_self s t start) fun c d s t hcd => ?_
    refine agree_bind (ih (fun b hb => step b (List.mem_cons_of_mem _ hb)) hcd.1) fun cs ds s t hrest => ?_
    exact ⟨hrest.1, .cons hcd.2 hrest.2⟩

/-- A call that only the first program makes is made before the second one goes on. -/
theorem agree_answered_left {c : Call} {reply : c.Reply} {f : c.Reply → Program α}
    (h : s.answer v c = (.ok reply, s')) (hrest : (f reply).Agree v w R E q s' t) :
    ((perform c).bind f).Agree v w R E q s t := by
  have hrun : (perform c).run v s [] = ⟨.ok reply, s', [], [.call c]⟩ := by
    simp only [perform, run, Fault.strike, h]
    rfl
  have hresult : ((perform c).run v s []).result = .ok reply := by rw [hrun]
  unfold Agree at hrest ⊢
  rw [server_run_bind, (run_bind_of_ok hresult).1, hrun]
  exact hrest

/-! ### One program by itself -/

/-- Two programs end alike where what they assure of themselves says so. -/
theorem agree_of_assures {ok : α → Server → Prop} {bad : Failure → Server → Prop}
    {ok' : β → Server → Prop} {bad' : Failure → Server → Prop}
    (hp : p.Assures (.alone (.faultless v)) ok bad s) (hq : q.Assures (.alone (.faultless w)) ok' bad' t)
    (h : ∀ x y s t, EndsAs ok bad x s → EndsAs ok' bad' y t → EndsAlike R E x y s t) :
    p.Agree v w R E q s t :=
  h _ _ _ _ hp.run_faultless hq.run_faultless

/-- The same when both of them are sure to end with values. -/
theorem agree_of_values {ok : α → Server → Prop} {ok' : β → Server → Prop}
    (hp : p.Assures (.alone (.faultless v)) ok (fun _ _ => False) s)
    (hq : q.Assures (.alone (.faultless w)) ok' (fun _ _ => False) t)
    (h : ∀ a b s t, ok a s → ok' b t → R a b s t) : p.Agree v w R E q s t := by
  refine agree_of_assures hp hq fun x y s t hx hy => ?_
  obtain ⟨a, rfl, ha⟩ := hx.exists_ok
  obtain ⟨b, rfl, hb⟩ := hy.exists_ok
  exact h a b s t ha hb

/-- What the first program assures is known besides. -/
theorem Agree.and_left {ok : α → Server → Prop} {bad : Failure → Server → Prop}
    (h : p.Agree v w R E q s t) (hp : p.Assures (.alone (.faultless v)) ok bad s) :
    p.Agree v w (fun a b s t => R a b s t ∧ ok a s) (fun e e' s t => E e e' s t ∧ bad e s) q s t := by
  have hends := hp.run_faultless
  unfold Agree EndsAlike at h ⊢
  split at h <;> rename_i hx hy
  · rw [hx] at hends
    exact ⟨h, hends⟩
  · rw [hx] at hends
    exact ⟨h, hends⟩
  · exact h.elim

/-- A program agrees with itself if its calls are answered alike at related servers, and keep them
related. -/
theorem agree_self {P : Call → Prop} {M : Server → Server → Prop} (hp : p.CallsIn P)
    (answers : ∀ c s t, P c → M s t →
      (t.answer w c).1 = (s.answer v c).1 ∧ M (s.answer v c).2 (t.answer w c).2) (start : M s t) :
    p.Agree v w (fun a b s t => b = a ∧ M s t) (fun e e' s t => e' = e ∧ M s t) p s t := by
  induction p generalizing s t with
  | done a => exact ⟨rfl, start⟩
  | fail e => exact ⟨rfl, start⟩
  | remark m p ih => exact ih hp start
  | call c k ih =>
    obtain ⟨hreply, hservers⟩ := answers c s t hp.1 start
    have hrest := ih (s.answer v c).1 (hp.2 _) hservers
    unfold Agree at hrest ⊢
    simp only [run, Fault.strike, hreply]
    exact hrest

/-- From the same server and with the same sight, a program ends twice in the same way. -/
theorem agree_refl : p.Agree v v (fun a b s t => b = a ∧ t = s) SameEnd p s s := by
  unfold Agree
  cases (p.run v s []).result with
  | ok a => exact ⟨rfl, rfl⟩
  | error e => exact ⟨rfl, rfl⟩

end Program

end Bringup
