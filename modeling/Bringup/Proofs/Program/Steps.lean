import Bringup.Proofs.Program.Assurance
import Mathlib.Logic.Relation

/-!
# Programs step by step

* `Program.StepsTo`, `Program.LeadsTo` : where a program and its server come to by one step, and by any
  number of them: a step is a remark, or a call that is struck or answered;
* `Program.Course.comes_to` : every call of a course is one that the program comes to;
* `Program.CallsIn` : a program makes calls of one kind only, whatever they are replied;
* `Program.LeadsTo.in_phase` : of two programs one after the other, a call that the first one never makes
  is made at a server where what the first one assures still holds, and all calls after it are of the
  second one.

A course tells the calls of a run from its start to its end.  What holds at the moment of a call, and of
the calls after it, is a matter of steps.
-/

namespace Bringup

namespace Program

variable {α β : Type}

/-- One step of a program at a server. -/
inductive StepsTo (W : Weather) : Program α × Server → Program α × Server → Prop
  | remark {m : Remark} {p : Program α} {s : Server} : StepsTo W (.remark m p, s) (p, s)
  | struck {c : Call} {k : Except Failure c.Reply → Program α} {s : Server} (e : Failure) :
    W.strikes c e → StepsTo W (.call c k, s) (k (.error e), s)
  | answered {c : Call} {k : Except Failure c.Reply → Program α} {s : Server} (v : Sight) :
    W.sights v → StepsTo W (.call c k, s) (k (s.answer v c).1, (s.answer v c).2)

/-- Where a program and its server come to. -/
def LeadsTo (W : Weather) : Program α × Server → Program α × Server → Prop :=
  Relation.ReflTransGen (StepsTo W)

variable {W : Weather}

/-- Every call of a course is one that the program comes to, and the course goes on from there. -/
theorem Course.comes_to {p : Program α} {s t : Server} {before after calls : List Call} {c : Call}
    {r : Except Failure α} (h : Course W p s calls r t) (hcalls : calls = before ++ c :: after) :
    ∃ k u, LeadsTo W (p, s) (.call c k, u) ∧ Course W (.call c k) u (c :: after) r t := by
  -- on the course: the call is the next one, or it comes after a step
  induction h generalizing before with
  | done => simp at hcalls
  | fail => simp at hcalls
  | remark _ ih =>
    obtain ⟨k, u, hleads, hcourse⟩ := ih hcalls
    exact ⟨k, u, .head .remark hleads, hcourse⟩
  | struck e he hrest ih =>
    cases before with
    | nil =>
      obtain ⟨rfl, rfl⟩ := List.cons.inj hcalls
      exact ⟨_, _, .refl, .struck e he hrest⟩
    | cons d before =>
      obtain ⟨k, u, hleads, hcourse⟩ := ih (List.cons.inj hcalls).2
      exact ⟨k, u, .head (.struck e he) hleads, hcourse⟩
  | answered v hv hrest ih =>
    cases before with
    | nil =>
      obtain ⟨rfl, rfl⟩ := List.cons.inj hcalls
      exact ⟨_, _, .refl, .answered v hv hrest⟩
    | cons d before =>
      obtain ⟨k, u, hleads, hcourse⟩ := ih (List.cons.inj hcalls).2
      exact ⟨k, u, .head (.answered v hv) hleads, hcourse⟩

/-! ### Calls of one kind -/

/-- Whatever its calls are replied, the program makes calls as `P` says only. -/
def CallsIn (P : Call → Prop) : Program α → Prop
  | .done _ | .fail _ => True
  | .remark _ p => p.CallsIn P
  | .call c k => P c ∧ ∀ reply, (k reply).CallsIn P

variable {P Q : Call → Prop}

theorem callsIn_perform {c : Call} (h : P c) : (perform c).CallsIn P :=
  ⟨h, fun reply => by cases reply <;> trivial⟩

theorem callsIn_bind {p : Program α} {f : α → Program β} (h : p.CallsIn P)
    (hf : ∀ a, (f a).CallsIn P) : (p.bind f).CallsIn P := by
  induction p with
  | done a => exact hf a
  | fail e => trivial
  | remark m p ih => exact ih h
  | call c k ih => exact ⟨h.1, fun reply => ih reply (h.2 reply)⟩

theorem CallsIn.mono {p : Program α} (h : p.CallsIn P) (hP : ∀ c, P c → Q c) : p.CallsIn Q := by
  induction p with
  | done a => trivial
  | fail e => trivial
  | remark m p ih => exact ih h
  | call c k ih => exact ⟨hP c h.1, fun reply => ih reply (h.2 reply)⟩

theorem CallsIn.step {p q : Program α} {s t : Server} (h : p.CallsIn P)
    (hstep : StepsTo W (p, s) (q, t)) : q.CallsIn P := by
  cases hstep with
  | remark => exact h
  | struck e _ => exact h.2 _
  | answered v _ => exact h.2 _

/-- All calls that such a program comes to are of this kind. -/
theorem CallsIn.leadsTo {p q : Program α} {s t : Server} (h : p.CallsIn P)
    (hleads : LeadsTo W (p, s) (q, t)) : q.CallsIn P := by
  suffices key : ∀ x, LeadsTo W (p, s) x → x.1.CallsIn P from key _ hleads
  intro x hx
  induction hx with
  | refl => exact h
  | tail _ hstep ih => exact ih.step hstep

/-! ### One program after another -/

/-- What a program assures it assures after each of its steps, when the others may also do nothing. -/
theorem Assures.step {C : Setting} {ok : α → Server → Prop} {bad : Failure → Server → Prop}
    {p q : Program α} {s t : Server} (h : p.Assures C ok bad s)
    (hstep : StepsTo C.toWeather (p, s) (q, t)) (stay : ∀ u, C.others u u) :
    q.Assures C ok bad t := by
  cases hstep with
  | remark => exact h
  | struck e he => exact ((h s (stay s)).1 e he).2
  | answered v hv => exact ((h s (stay s)).2 v hv).2

/-- Of two programs one after the other, the first one is under way, or it has ended, and `mid` holds. -/
def Phase (C : Setting) (P Q : Call → Prop) (mid : Server → Prop) (bad : Failure → Server → Prop)
    (f : α → Program β) (x : Program β × Server) : Prop :=
  (∃ p : Program α, x.1 = p.bind f ∧ p.CallsIn P ∧ p.Assures C (fun _ => mid) bad x.2) ∨
    x.1.CallsIn Q ∧ mid x.2

variable {C : Setting} {mid : Server → Prop} {bad : Failure → Server → Prop} {f : α → Program β}

/-- The second program keeps `mid`. -/
theorem phase_of_second {q q' : Program β} {s t : Server} (h : q.CallsIn Q) (hmid : mid s)
    (hstep : StepsTo W (q, s) (q', t)) (keep : ∀ c v u, Q c → mid u → mid (u.answer v c).2) :
    Phase C P Q mid bad f (q', t) := by
  refine .inr ⟨h.step hstep, ?_⟩
  cases hstep with
  | remark => exact hmid
  | struck e _ => exact hmid
  | answered v _ => exact keep _ v _ h.1 hmid

/-- No step leads out of the phases. -/
theorem Phase.step {x y : Program β × Server} (h : Phase C P Q mid bad f x)
    (hstep : StepsTo C.toWeather x y) (stay : ∀ u, C.others u u) (hf : ∀ a, (f a).CallsIn Q)
    (keep : ∀ c v u, Q c → mid u → mid (u.answer v c).2) : Phase C P Q mid bad f y := by
  obtain ⟨q, s⟩ := x
  obtain ⟨q', t⟩ := y
  rcases h with ⟨p, hq, hcalls, hassures⟩ | ⟨hcalls, hmid⟩
  · obtain rfl : q = p.bind f := hq
    cases p with
    -- the first program has ended, and so this is the first step of the second one
    | done a => exact phase_of_second (hf a) hassures hstep keep
    | fail e => cases hstep
    | remark m p =>
      cases hstep
      exact .inl ⟨p, rfl, hcalls, hassures⟩
    | call c k =>
      cases hstep with
      | struck e he =>
        have hfirst : StepsTo C.toWeather (.call c k, s) (k (.error e), s) := .struck e he
        exact .inl ⟨_, rfl, hcalls.step hfirst, hassures.step hfirst stay⟩
      | answered v hv =>
        have hfirst : StepsTo C.toWeather (.call c k, s) (k (s.answer v c).1, (s.answer v c).2) :=
          .answered v hv
        exact .inl ⟨_, rfl, hcalls.step hfirst, hassures.step hfirst stay⟩
  · exact phase_of_second hcalls hmid hstep keep

/-- A call that the first of two programs never makes is made when `mid` holds, and all calls from there
on are of the second one. -/
theorem LeadsTo.in_phase {p : Program α} {s t : Server} {c : Call}
    {k : Except Failure c.Reply → Program β}
    (h : LeadsTo C.toWeather (p.bind f, s) (.call c k, t)) (hc : ¬ P c) (hp : p.CallsIn P)
    (hf : ∀ a, (f a).CallsIn Q) (hassures : p.Assures C (fun _ => mid) bad s)
    (stay : ∀ u, C.others u u) (keep : ∀ c v u, Q c → mid u → mid (u.answer v c).2) :
    mid t ∧ (Program.call c k).CallsIn Q := by
  -- every point on the way is in the first program or in the second one
  have hphase : Phase C P Q mid bad f (.call c k, t) := by
    suffices key : ∀ x, LeadsTo C.toWeather (p.bind f, s) x → Phase C P Q mid bad f x from key _ h
    intro x hx
    induction hx with
    | refl => exact .inl ⟨p, rfl, hp, hassures⟩
    | tail _ hstep ih => exact ih.step hstep stay hf keep
  rcases hphase with ⟨q, hq, hcalls, hopen⟩ | ⟨hcalls, hmid⟩
  · cases q with
    | done a =>
      have hsecond : Program.call c k = f a := hq
      exact ⟨hopen, hsecond ▸ hf a⟩
    | fail e => cases hq
    | remark m q => cases hq
    | call d k' =>
      obtain ⟨rfl, -⟩ : c = d ∧ _ := by simpa [Program.bind] using hq
      exact absurd hcalls.1 hc
  · exact ⟨hmid, hcalls⟩

end Program

end Bringup
