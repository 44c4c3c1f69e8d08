import Bringup.Proofs.Program.Within

/-!
# What the steps of a run ask and say

* `Plan.within_principalStep`, `Plan.within_ensureCollections`, `Plan.within_ensureIndexes`,
  `Plan.within_seedStep` : the kinds of calls that each step makes; all that it says goes to the log;
* `Call.InSession`, `Plan.within_provision` : a run uses the client that is there;
* `Plan.seedStep_congr` : what the step of the role documents reads of the plan.
-/

namespace Bringup

/-- The call neither opens a client nor closes one. -/
def Call.InSession (c : Call) : Prop := c.kind ≠ .connect ∧ c.kind ≠ .close

theorem Call.kind_ne_of_mem {c : Call} {kind : CallKind} {kinds : List CallKind} (hno : kind ∉ kinds)
    (hc : c.kind ∈ kinds) : c.kind ≠ kind := by
  rintro rfl
  exact hno hc

namespace Plan

open Program (within_bind within_rescue within_perform within_each within_ofExcept within_say)

variable {plan : Plan} {now : Instant} {P : Call → Prop}

theorem within_abort {α : Type} {step : Step} {e : Failure} :
    (plan.abort step e : Program α).Within Remark.IsEntry P :=
  within_bind within_say fun _ => trivial

theorem within_guarded {α : Type} {step : Step} {p : Program α} (h : p.Within Remark.IsEntry P) :
    (plan.guarded step p).Within Remark.IsEntry P :=
  within_rescue h fun _ => within_abort

theorem within_principalStep_of (h : plan.createPrincipal.Within Remark.IsEntry P) :
    plan.principalStep.Within Remark.IsEntry P := by
  unfold principalStep
  split
  · exact within_bind within_say fun _ => trivial
  refine within_bind (within_bind (within_rescue h fun e => ?_) fun _ =>
    within_bind within_say fun _ => trivial) fun _ => trivial
  split
  · trivial
  · exact within_abort

theorem within_principalStep :
    plan.principalStep.Within Remark.IsEntry fun c => c.kind ∈ [.database, .command] :=
  within_principalStep_of (within_bind (within_perform (.head _)) fun _ =>
    within_bind (within_perform (.tail _ (.head _))) fun _ => trivial)

theorem within_ensureCollections : plan.ensureCollections.Within Remark.IsEntry
    fun c => c.kind ∈ [.listCollections, .createCollection] := by
  refine within_bind (within_guarded (within_perform (.head _))) fun existing =>
    within_each fun n => ?_
  unfold ensureCollection
  split
  · exact within_bind within_say fun _ => trivial
  have hcreate : (plan.createCollection n).Within Remark.IsEntry
      fun c => c.kind ∈ [.listCollections, .createCollection] :=
    within_bind (within_perform (.tail _ (.head _))) fun _ => trivial
  refine within_bind (within_rescue hcreate fun e => ?_) fun action =>
    within_bind ?_ fun _ => trivial
  · split
    · trivial
    · exact within_abort
  · cases action <;> exact within_say

theorem within_ensureIndexes : plan.ensureIndexes.Within Remark.IsEntry
    fun c => c.kind ∈ [.collection, .indexInformation, .createIndexes] := by
  refine within_bind (within_each fun c => ?_) fun _ => trivial
  unfold ensureCollectionIndexes
  split
  · trivial
  refine within_bind (within_perform (.head _)) fun _ =>
    within_bind (within_guarded (within_perform (.tail _ (.head _)))) fun existing =>
      within_each fun i => ?_
  unfold ensureIndex
  split
  · refine within_bind within_ofExcept fun same => ?_
    split <;> exact within_bind within_say fun _ => trivial
  · exact within_bind (within_guarded (within_perform (.tail _ (.tail _ (.head _))))) fun _ =>
      within_bind within_say fun _ => trivial

theorem within_writeRole {r : RoleSeed} : (plan.writeRole r now).Within Remark.IsEntry
    fun c => c.kind ∈ [.collection, .findOne, .updateOne] := by
  have hinsert (present : Action) : (plan.insertRole r now present).Within Remark.IsEntry
      fun c => c.kind ∈ [.collection, .findOne, .updateOne] :=
    within_bind (within_perform (.tail _ (.tail _ (.head _)))) fun _ => trivial
  unfold writeRole
  split
  · exact hinsert _
  refine within_bind (within_perform (.tail _ (.head _))) fun stored => ?_
  split
  · exact hinsert _
  unfold updateRole
  split
  · split
    · exact within_bind (within_perform (.tail _ (.tail _ (.head _)))) fun _ => trivial
    · trivial
  · trivial

theorem within_seedStep : (plan.seedStep now).Within Remark.IsEntry
    fun c => c.kind ∈ [.collection, .findOne, .updateOne] := by
  unfold seedStep
  split
  · exact within_bind within_say fun _ => trivial
  unfold seedRoles
  split
  · trivial
  exact within_bind (within_perform (.head _)) fun _ => within_each fun r =>
    within_bind (within_guarded within_writeRole) fun _ => within_bind within_say fun _ => trivial

/-- All but the step of the principal asks neither for commands nor for another client. -/
theorem within_provision_of (hprincipal : plan.principalStep.Within Remark.IsEntry P)
    (hothers : ∀ c : Call, c.InSession → c.kind ≠ .command → P c) :
    (plan.provision now).Within Remark.IsEntry P := by
  have hkinds {kinds : List CallKind}
      (hno : .connect ∉ kinds ∧ .close ∉ kinds ∧ .command ∉ kinds) (c : Call)
      (hc : c.kind ∈ kinds) : P c :=
    hothers c ⟨Call.kind_ne_of_mem hno.1 hc, Call.kind_ne_of_mem hno.2.1 hc⟩ (Call.kind_ne_of_mem hno.2.2 hc)
  exact within_bind within_say fun _ =>
    within_bind hprincipal fun _ =>
      within_bind (within_perform (hothers _ ⟨nofun, nofun⟩ nofun)) fun _ =>
        within_bind (within_ensureCollections.mono (fun _ h => h) (hkinds (by decide))) fun _ =>
          within_bind (within_ensureIndexes.mono (fun _ h => h) (hkinds (by decide))) fun _ =>
            within_bind (within_seedStep.mono (fun _ h => h) (hkinds (by decide))) fun _ =>
              within_bind within_say fun _ => trivial

theorem within_provision : (plan.provision now).Within Remark.IsEntry Call.InSession := by
  refine within_provision_of (within_principalStep.mono (fun _ h => h) fun c hc => ?_)
    fun _ h _ => h
  exact ⟨Call.kind_ne_of_mem (by decide) hc, Call.kind_ne_of_mem (by decide) hc⟩

/-! ### What the role documents go by -/

variable {plan' : Plan}

theorem writeRole_congr (hdatabase : plan'.database = plan.database) (hpolicy : plan'.policy = plan.policy)
    (r : RoleSeed) : plan'.writeRole r now = plan.writeRole r now := by
  obtain ⟨⟨database, _, _, _⟩, policy, _, _⟩ := plan
  obtain ⟨⟨database', _, _, _⟩, policy', _, _⟩ := plan'
  obtain rfl : database' = database := hdatabase
  obtain rfl : policy' = policy := hpolicy
  unfold writeRole
  congr 1
  refine funext fun _ => congrArg (Program.bind _) (funext fun stored => ?_)
  cases stored <;> rfl

/-- The role documents go by the database, the roles, the policy, and whether they are wanted. -/
theorem seedStep_congr (hdatabase : plan'.database = plan.database) (hroles : plan'.spec.roles = plan.spec.roles)
    (hpolicy : plan'.policy = plan.policy) (hskip : plan'.skipSeed = plan.skipSeed) :
    plan'.seedStep now = plan.seedStep now := by
  have hseed : plan'.seedRole now = plan.seedRole now := by
    funext r
    unfold seedRole guarded abort tell entry
    rw [writeRole_congr hdatabase hpolicy, hdatabase]
  unfold seedStep seedRoles tell entry
  rw [hseed, hskip, hroles, hdatabase]

end Plan

end Bringup
