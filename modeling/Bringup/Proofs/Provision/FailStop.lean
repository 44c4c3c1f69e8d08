import Bringup.Proofs.Program.FailStop
import Bringup.Proofs.Provision.Outline

/-!
# Runs that stop at a failure

* `Plan.Recovers` : the failures that a step takes for a sign that its object is there already;
* `Plan.provision_failStop` : any other failure of a call ends the run at this call, and the server stays
  as it was just before it.
-/

namespace Bringup

/-- The failures that the step of the principal recovers from, whichever of its calls they struck. -/
def RecoversUser (_ : Call) (e : Failure) : Prop := e.isDriver = true ∧ e.saysUserExists = true

/-- The failures that the later steps recover from. -/
def RecoversCollection (c : Call) (e : Failure) : Prop :=
  c.kind = .createCollection ∧ e.isDriver = true ∧ e.saysAlreadyExists = true

instance (c : Call) (e : Failure) : Decidable (RecoversUser c e) :=
  inferInstanceAs (Decidable (_ ∧ _))

instance (c : Call) (e : Failure) : Decidable (RecoversCollection c e) :=
  inferInstanceAs (Decidable (_ ∧ _))

namespace Plan

variable {plan : Plan} {s : Server} {now : Instant} {R : Call → Failure → Prop}

/-- The step that makes the call at position `k` takes its failure for a sign that the object is there
already.  The first two calls are those of the principal, unless it is skipped. -/
def Recovers (plan : Plan) (k : Nat) (c : Call) (e : Failure) : Prop :=
  if plan.skipPrincipal = false ∧ k < 2 then RecoversUser c e else RecoversCollection c e

instance (k : Nat) (c : Call) (e : Failure) : Decidable (plan.Recovers k c e) :=
  inferInstanceAs (Decidable (if plan.skipPrincipal = false ∧ k < 2 then RecoversUser c e
    else RecoversCollection c e))

/-! ### The steps -/

theorem dies_abort {α : Type} {step : Step} {e : Failure} : (plan.abort step e : Program α).Dies :=
  trivial

/-- A guarded part recovers from nothing. -/
theorem failStop_guarded {α : Type} {step : Step} {P : Call → Prop} {p : Program α}
    (h : p.Plain P) : (plan.guarded step p).FailStop R :=
  Program.failStop_rescue h (fun _ _ _ _ _ => dies_abort) fun _ => dies_abort.failStop

theorem failStop_perform {c : Call} : (Program.perform c).FailStop R :=
  (Program.plain_perform (P := fun _ => True) trivial).failStop

theorem failStop_guarded_perform {step : Step} {c : Call} :
    (plan.guarded step (.perform c)).FailStop R :=
  failStop_guarded (Program.plain_perform (P := fun _ => True) trivial)

theorem failStop_principalStep : plan.principalStep.FailStop RecoversUser := by
  unfold principalStep
  split
  · trivial
  refine Program.failStop_bind (Program.failStop_bind ?_ fun _ => trivial) fun _ => trivial
  have hplain : plan.createPrincipal.Plain fun _ => True :=
    Program.plain_bind (Program.plain_perform trivial) fun _ =>
      Program.plain_bind (Program.plain_perform trivial) fun _ => trivial
  refine Program.failStop_rescue hplain (fun c e _ hdriver he => ?_) fun e => ?_
  · rw [if_neg (fun hexists => he ⟨hdriver, hexists⟩)]
    exact dies_abort
  · split
    · trivial
    · exact dies_abort.failStop

theorem failStop_ensureCollections : plan.ensureCollections.FailStop RecoversCollection := by
  refine Program.failStop_bind failStop_guarded_perform fun existing =>
    Program.failStop_each fun n => ?_
  unfold ensureCollection
  split
  · trivial
  have hplain : (plan.createCollection n).Plain (Call.kind · = .createCollection) :=
    Program.plain_bind (Program.plain_perform rfl) fun _ => trivial
  refine Program.failStop_bind (Program.failStop_rescue hplain (fun c e hc hdriver he => ?_)
    fun e => ?_) fun action => Program.failStop_bind ?_ fun _ => trivial
  · rw [if_neg (fun hexists => he ⟨hc, hdriver, hexists⟩)]
    exact dies_abort
  · split
    · trivial
    · exact dies_abort.failStop
  · cases action <;> trivial

theorem failStop_ensureIndexes : plan.ensureIndexes.FailStop R := by
  refine Program.failStop_bind (Program.failStop_each fun c => ?_) fun _ => trivial
  unfold ensureCollectionIndexes
  split
  · trivial
  refine Program.failStop_bind failStop_perform fun _ =>
    Program.failStop_bind failStop_guarded_perform fun existing => Program.failStop_each fun i => ?_
  unfold ensureIndex
  split
  -- a conflict fails without a call, and so there is nothing to recover from
  · refine Program.failStop_bind ?_ fun same => ?_
    · cases i.matches? _ <;> trivial
    · split <;> trivial
  · exact Program.failStop_bind failStop_guarded_perform fun _ => trivial

theorem plain_writeRole {r : RoleSeed} : (plan.writeRole r now).Plain fun _ => True := by
  have hinsert (present : Action) : (plan.insertRole r now present).Plain fun _ => True :=
    Program.plain_bind (Program.plain_perform trivial) fun _ => trivial
  unfold writeRole
  split
  · exact hinsert _
  refine Program.plain_bind (Program.plain_perform trivial) fun stored => ?_
  split
  · exact hinsert _
  unfold updateRole
  split
  · split
    · exact Program.plain_bind (Program.plain_perform trivial) fun _ => trivial
    · trivial
  · trivial

theorem failStop_seedStep : (plan.seedStep now).FailStop R := by
  unfold seedStep
  split
  · trivial
  unfold seedRoles
  split
  · trivial
  refine Program.failStop_bind failStop_perform fun _ => Program.failStop_each fun r => ?_
  exact Program.failStop_bind (failStop_guarded plain_writeRole) fun _ => trivial

/-! ### The run -/

/-- The run, as the step of the principal and the rest. -/
theorem provision_eq_bind (plan : Plan) (now : Instant) :
    ∃ (m : Remark) (rest : List Outcome → Program Report),
      plan.provision now = (Program.remark m plan.principalStep).bind rest ∧
        ∀ principal, (rest principal).FailStop RecoversCollection := by
  refine ⟨_, _, rfl, fun principal => ?_⟩
  refine Program.failStop_bind failStop_perform fun _ => ?_
  refine Program.failStop_bind failStop_ensureCollections fun collections => ?_
  refine Program.failStop_bind failStop_ensureIndexes fun indexes => ?_
  exact Program.failStop_bind failStop_seedStep fun seeds => trivial

/-- The step of the principal makes two calls, unless it is skipped. -/
theorem length_calls_principalStep : (plan.principalStep.run .clear s []).calls.length =
    if plan.skipPrincipal = true then 0 else 2 := by
  unfold principalStep
  split
  · rfl
  simp only [Bind.bind, Pure.pure, ensurePrincipal, createPrincipal, Program.rescue,
    Program.perform, Program.attempt, Program.bind, Program.run, Fault.strike, Server.answer,
    ↓reduceIte]
  -- the user is there, or it is created
  cases s.users.contains (Value.str plan.spec.principal.name).display with
  | true => rfl
  | false => rfl

/-- **Fail-stop.**  A run in which one call fails, with a failure that its step does not recover from, fails
and makes no call after this one; the server is as it was just before the call in the undisturbed run. -/
theorem provision_failStop {k : Nat} {c : Call} {e : Failure}
    (hc : ((plan.provision now).run .clear s []).calls[k]? = some c) (he : ¬ plan.Recovers k c e) :
    let calls := ((plan.provision now).run .clear s []).calls
    let struck := (plan.provision now).run .clear s [Fault.single calls k c e]
    struck.result.isOk = false ∧ struck.calls = calls.take (k + 1) ∧
      struck.server = s.afterCalls (calls.take k) := by
  obtain ⟨m, rest, heq, hrest⟩ := provision_eq_bind plan now
  rw [heq] at hc ⊢
  refine Program.FailStop.stopsAt_bind (p := .remark m plan.principalStep) failStop_principalStep
    hrest hc ?_
  -- which step a call belongs to is told by its position
  have hlength : ((Program.remark m plan.principalStep).run .clear s []).calls.length =
      if plan.skipPrincipal = true then 0 else 2 := length_calls_principalStep
  rw [hlength]
  unfold Recovers at he
  cases hskip : plan.skipPrincipal with
  | true => simpa [hskip] using he
  | false =>
    simp only [hskip, Bool.false_eq_true, ↓reduceIte, true_and] at he ⊢
    split <;> rename_i hk <;> simpa only [hk, ↓reduceIte] using he

theorem provision_failStop_builtIn :
    let calls := ((builtIn.provision .epoch).run .clear .drifted []).calls
    let struck := (builtIn.provision .epoch).run .clear .drifted
      [Fault.single calls 5 (.createCollection "app" "permissions") (.ofRuntime .interrupt "")]
    struck.result.isOk = false ∧ struck.calls = calls.take 6 ∧
      struck.server = Server.drifted.afterCalls (calls.take 5) :=
  provision_failStop (by decide +kernel) (by decide +kernel)

end Plan

end Bringup
