import Bringup.Proofs.Program.Arguments
import Bringup.Proofs.Provision.Conduct

/-!
# The secret of the principal

* `Plan.withSecret` : the same plan with another secret for its user;
* `Call.password?` : the password that a command is given;
* `Plan.provision_withSecret` : with another secret a run is the same program, but for the password;
* `Plan.secret_only_in_password` : a run tells its secret to nobody but the command that creates the user.

That nothing else depends on the secret is said by two runs, one for each of two secrets.
-/

namespace Bringup

/-- The same specification with another secret for its user. -/
def SeedSpec.withSecret (spec : SeedSpec) (secret : String) : SeedSpec :=
  { spec with principal := { spec.principal with secret } }

/-- The arguments of a command, with another password if it creates a user. -/
def setPassword (secret command : String) (arguments : Fields) : Fields :=
  if command = Server.createUser then
    arguments.map fun (field, v) => (field, if field = "pwd" then .str secret else v)
  else arguments

/-- The password that a command is given. -/
def Call.password? : Call → Option Value
  | .command _ _ _ arguments => arguments.lookup "pwd"
  | _ => none

namespace Plan

open Program (mapArguments_bind mapArguments_rescue mapArguments_perform within_bind within_perform)

variable {plan : Plan} {secret : String} {now : Instant}

/-- The same plan with another secret for its user. -/
def withSecret (plan : Plan) (secret : String) : Plan :=
  { plan with spec := plan.spec.withSecret secret }

/-- With another secret the user is created in the same way, with another password. -/
theorem createPrincipal_withSecret : (plan.withSecret secret).createPrincipal
    = plan.createPrincipal.mapArguments (setPassword secret) := by
  refine mapArguments_bind (mapArguments_perform nofun) fun _ => mapArguments_bind ?_ fun _ => rfl
  exact congrArg (Program.call _) (funext fun reply => by cases reply <;> rfl)

theorem principalStep_withSecret : (plan.withSecret secret).principalStep
    = plan.principalStep.mapArguments (setPassword secret) := by
  unfold principalStep
  change (if plan.skipPrincipal then _ else _)
    = (if plan.skipPrincipal then _ else _ : Program _).mapArguments _
  split
  · rfl
  · refine mapArguments_bind (mapArguments_bind (mapArguments_rescue createPrincipal_withSecret
      fun e => ?_) fun _ => rfl) fun _ => rfl
    split <;> rfl

/-- The role documents are written in the same way, whatever the secret. -/
theorem seedStep_withSecret : (plan.withSecret secret).seedStep now = plan.seedStep now :=
  seedStep_congr rfl rfl rfl rfl

/-- With another secret a run is the same program, but for the password that the user is created with. -/
theorem provision_withSecret : (plan.withSecret secret).provision now
    = (plan.provision now).mapArguments (setPassword secret) := by
  -- The other steps give no commands, and read nothing of the user.
  have hcollections : plan.ensureCollections = plan.ensureCollections.mapArguments (setPassword secret) :=
    within_ensureCollections.mapArguments fun _ => Call.kind_ne_of_mem (by decide)
  have hindexes : plan.ensureIndexes = plan.ensureIndexes.mapArguments (setPassword secret) :=
    within_ensureIndexes.mapArguments fun _ => Call.kind_ne_of_mem (by decide)
  have hseed : plan.seedStep now = (plan.seedStep now).mapArguments (setPassword secret) :=
    within_seedStep.mapArguments fun _ => Call.kind_ne_of_mem (by decide)
  exact mapArguments_bind rfl fun _ =>
    mapArguments_bind principalStep_withSecret fun _ =>
      mapArguments_bind (mapArguments_perform nofun) fun _ =>
        mapArguments_bind hcollections fun _ =>
          mapArguments_bind hindexes fun _ =>
            mapArguments_bind (seedStep_withSecret.trans hseed) fun _ => rfl

/-- The commands of a run are given the secret as their password. -/
theorem within_provision_password : (plan.provision now).Within Remark.IsEntry fun c =>
    c.kind = .command → c.password? = some (.str plan.spec.principal.secret) :=
  within_provision_of
    (within_principalStep_of (within_bind (within_perform nofun) fun _ =>
      within_bind (within_perform fun _ => rfl) fun _ => trivial))
    fun _ _ hne heq => absurd heq hne

/-- **Secrecy.**  The secret of the user is in no result, no remark and no state of the server, and of all
that a run asks only in the password of the commands that create the user: with another secret, the run ends
with the same report or the same failure, says the same, leaves the same server, and makes the same calls
but for that password. -/
theorem secret_only_in_password (plan : Plan) (secret : String) (now : Instant) (sight : Sight) (s : Server)
    (faults : List Fault) :
    let run := (plan.provision now).run sight s faults
    let run' := ((plan.withSecret secret).provision now).run sight s faults
    run'.result = run.result ∧ run'.remarks = run.remarks ∧ run'.server = run.server ∧
      run'.calls = run.calls.map (Call.mapArguments (setPassword secret)) ∧
      ∀ c ∈ run.calls, c.kind = .command →
        c.password? = some (.str plan.spec.principal.secret) := by
  intro run run'
  have hrun : run' = run.mapArguments (setPassword secret) := by
    change ((plan.withSecret secret).provision now).run sight s faults = _
    rw [provision_withSecret, Program.run_mapArguments]
  refine ⟨?_, ?_, ?_, ?_, ?_⟩
  · rw [hrun, Run.mapArguments]
  · rw [hrun, Run.remarks_mapArguments]
  · rw [hrun, Run.mapArguments]
  · rw [hrun, Run.calls_mapArguments]
  · exact fun c hc => within_provision_password.of_mem_calls hc

end Plan

end Bringup
