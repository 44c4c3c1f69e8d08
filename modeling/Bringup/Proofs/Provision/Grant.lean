import Bringup.Proofs.Program.Runs
import Bringup.Proofs.Provision.Conduct
import Bringup.Proofs.Provision.Outline
import Bringup.Proofs.Spec.Grammar

/-!
# Where a run grants rights

* `Plan.grantCommand`, `Call.grantDatabases` : the command that creates the user, and the databases that the
  grants of a command name;
* `SeedSpec.GrantsWithin` : the user of a specification is granted its role on the database that is brought up;
* `Plan.calls_provision` : a run begins with that command, or gives none;
* `Plan.provision_grant_scope` : a run gives no other command, and which databases its grant names.

The built-in layout takes both databases from one setting.  A specification that is loaded names them apart, and
they are not compared: what it grants may be a role on any database.
-/

namespace Bringup

/-- The database that a grant names. -/
def Value.grantDatabase? : Value → Option Value
  | .doc fields => fields.lookup "db"
  | _ => none

/-- The databases that the grants of a command name. -/
def Call.grantDatabases : Call → List Value
  | .command _ _ _ arguments =>
    match arguments.lookup "roles" with
    | some (.list grants) => grants.filterMap Value.grantDatabase?
    | _ => []
  | _ => []

/-- The user is granted its role on the database that is brought up. -/
def SeedSpec.GrantsWithin (spec : SeedSpec) : Prop := spec.principal.grantDatabase = spec.database

/-- The value names one database for both: for what is brought up, and for the grant of its user. -/
def Value.NamesOneDatabase (v : Value) : Prop :=
  ∃ fields principal, v = .doc fields ∧ fields.lookup "principal" = some (.doc principal) ∧
    principal.lookup "grant_db" = fields.lookup "database"

/-! ### The calls of programs put together -/

namespace Program

variable {α β : Type} {sight : Sight} {s : Server} {faults : List Fault} {p : Program α}
  {f : α → Program β} {R : Remark → Prop} {P : Call → Prop}

theorem calls_run_perform {c : Call} : ((perform c).run sight s faults).calls = [c] := by
  rw [perform, run]
  split
  · rfl
  · split
    rename_i reply t _
    cases reply <;> rfl

theorem calls_run_attempt : (p.attempt.run sight s faults).calls = (p.run sight s faults).calls := by
  rw [run_attempt]
  rfl

/-- The calls of a program are followed by those of what comes next, if it comes to that. -/
theorem calls_run_bind (p : Program α) (f : α → Program β) (s : Server) (faults : List Fault) :
    ((p.bind f).run sight s faults).calls = (p.run sight s faults).calls ∨ ∃ a t left,
      ((p.bind f).run sight s faults).calls = (p.run sight s faults).calls ++ ((f a).run sight t left).calls := by
  rw [run_bind]
  cases h : (p.run sight s faults).result with
  | error e =>
    rw [Run.andThen_of_error h]
    exact .inl rfl
  | ok a =>
    rw [Run.andThen_of_ok h]
    exact .inr ⟨a, _, _, List.filterMap_append⟩

/-- What comes next bounds the calls that follow. -/
theorem exists_calls_run_bind (hf : ∀ a, (f a).Within R P) (s : Server) (faults : List Fault) :
    ∃ later, ((p.bind f).run sight s faults).calls = (p.run sight s faults).calls ++ later ∧
      ∀ d ∈ later, P d := by
  obtain h | ⟨a, t, left, h⟩ := calls_run_bind p f s faults
  · exact ⟨[], by rw [h, List.append_nil], nofun⟩
  · exact ⟨_, h, fun d => (hf a).of_mem_calls⟩

/-- Nothing follows the calls of a program if what comes next asks nothing. -/
theorem calls_run_bind_of_silent (hf : ∀ a, (f a).Within R fun _ => False) :
    ((p.bind f).run sight s faults).calls = (p.run sight s faults).calls := by
  obtain ⟨later, h, hlater⟩ := exists_calls_run_bind (p := p) hf s faults
  rw [h, List.eq_nil_iff_forall_not_mem.2 hlater, List.append_nil]

end Program

namespace Plan

open Program (within_bind within_say within_perform calls_run_perform calls_run_bind calls_run_bind_of_silent
  exists_calls_run_bind calls_run_attempt)

variable {plan : Plan} {now : Instant} {sight : Sight} {s : Server} {faults : List Fault}

/-- The command that creates the user of the specification. -/
def grantCommand (plan : Plan) : Call :=
  .command adminDatabase Server.createUser (.str plan.spec.principal.name)
    [("pwd", .str plan.spec.principal.secret), ("roles", plan.spec.principal.roleGrants)]

/-- The command has one grant, on the database that is given with the user. -/
theorem grantDatabases_grantCommand :
    plan.grantCommand.grantDatabases = [.str plan.spec.principal.grantDatabase] := rfl

theorem calls_createPrincipal (plan : Plan) (sight : Sight) (s : Server) (faults : List Fault) :
    (plan.createPrincipal.run sight s faults).calls = [.database adminDatabase] ∨
      (plan.createPrincipal.run sight s faults).calls = [.database adminDatabase, plan.grantCommand] := by
  have hcommand (t : Server) (left : List Fault) :
      (((Program.perform plan.grantCommand).bind fun _ => .done Action.created).run sight t left).calls =
        [plan.grantCommand] :=
    Eq.trans (calls_run_bind_of_silent (R := Remark.IsEntry) fun _ => trivial) calls_run_perform
  obtain h | ⟨_, t, left, h⟩ := calls_run_bind (Program.perform (.database adminDatabase))
    (fun _ => (Program.perform plan.grantCommand).bind fun _ => .done Action.created) s faults
  · exact .inl (h.trans calls_run_perform)
  · exact .inr (h.trans (by rw [calls_run_perform, hcommand]; rfl))

/-- Around the creation of the user there is nothing but talk. -/
theorem calls_principalStep (hskip : plan.skipPrincipal = false) :
    (plan.principalStep.run sight s faults).calls = (plan.createPrincipal.run sight s faults).calls := by
  rw [principalStep, hskip, if_neg Bool.false_ne_true]
  refine Eq.trans (calls_run_bind_of_silent (R := Remark.IsEntry) fun _ => trivial) ?_
  refine Eq.trans (calls_run_bind_of_silent (R := Remark.IsEntry) fun _ =>
    within_bind within_say fun _ => trivial) ?_
  refine Eq.trans (calls_run_bind_of_silent (R := Remark.IsEntry) fun r => ?_) calls_run_attempt
  cases r with
  | ok action => trivial
  | error e =>
    dsimp only
    split
    · split
      · trivial
      · exact within_abort
    · trivial

/-- After the step of the user a run gives no command. -/
theorem exists_calls_provision (plan : Plan) (now : Instant) (sight : Sight) (s : Server)
    (faults : List Fault) : ∃ later, ((plan.provision now).run sight s faults).calls =
      (plan.principalStep.run sight s faults).calls ++ later ∧ ∀ d ∈ later, d.kind ≠ .command := by
  have hkinds {kinds : List CallKind} (hno : .command ∉ kinds) (c : Call) (hc : c.kind ∈ kinds) :
      c.kind ≠ .command := Call.kind_ne_of_mem hno hc
  refine exists_calls_run_bind (R := Remark.IsEntry) (p := plan.principalStep) (fun _ => ?_) s faults
  exact within_bind (within_perform nofun) fun _ =>
    within_bind (within_ensureCollections.mono (fun _ h => h) (hkinds (by decide))) fun _ =>
      within_bind (within_ensureIndexes.mono (fun _ h => h) (hkinds (by decide))) fun _ =>
        within_bind (within_seedStep.mono (fun _ h => h) (hkinds (by decide))) fun _ =>
          within_bind within_say fun _ => trivial

/-- A run begins with the command that creates the user, once it has the database of users at hand; or it gives
no command at all, as when the user is skipped. -/
theorem calls_provision (plan : Plan) (now : Instant) (sight : Sight) (s : Server) (faults : List Fault) :
    ∃ later, (∀ d ∈ later, d.kind ≠ .command) ∧ (((plan.provision now).run sight s faults).calls = later ∨
      plan.skipPrincipal = false ∧ ((plan.provision now).run sight s faults).calls =
        .database adminDatabase :: plan.grantCommand :: later) := by
  obtain ⟨later, hcalls, hlater⟩ := exists_calls_provision plan now sight s faults
  cases hskip : plan.skipPrincipal with
  | true =>
    have hnone : (plan.principalStep.run sight s faults).calls = [] := by
      rw [principalStep, hskip]
      rfl
    exact ⟨later, hlater, .inl (hcalls.trans (by rw [hnone, List.nil_append]))⟩
  | false =>
    rw [calls_principalStep hskip] at hcalls
    obtain hprincipal | hprincipal := calls_createPrincipal plan sight s faults
    · refine ⟨.database adminDatabase :: later, List.forall_mem_cons.2 ⟨nofun, hlater⟩, .inl ?_⟩
      rw [hcalls, hprincipal, List.singleton_append]
    · refine ⟨later, hlater, .inr ⟨rfl, ?_⟩⟩
      rw [hcalls, hprincipal]
      rfl

end Plan

/-! ### The two ways to a specification -/

namespace SeedSpec

/-- The built-in layout grants the role on its own database. -/
theorem grantsWithin_of_builtIn {database user password role : Value} {spec : SeedSpec}
    (h : builtIn database user password role = .ok spec) : spec.GrantsWithin := by
  obtain ⟨⟨hdatabase, -⟩, ⟨⟨fields, hfields, -, -, -, v, hv, hgrant⟩, -⟩, -, -⟩ := parts_of_builtIn h
  obtain rfl := Value.doc.inj hfields
  obtain rfl : database = v := Option.some.inj hv
  exact Value.str.inj (hgrant.symm.trans hdatabase)

/-- A specification that is loaded grants the role on its own database just when the value names one database
for both. -/
theorem grantsWithin_iff_of_load {v : Value} {spec : SeedSpec} (h : load v = .ok spec) :
    spec.GrantsWithin ↔ v.NamesOneDatabase := by
  obtain ⟨⟨fields, rfl, hdatabase, hprincipal, -, -⟩, -⟩ := load_eq_ok_iff.1 h
  obtain ⟨_, hdatabase, rfl⟩ := hdatabase
  obtain ⟨_, hprincipal, principal, rfl, -, -, -, _, hgrant, rfl⟩ := hprincipal
  constructor
  · intro hwithin
    exact ⟨fields, principal, rfl, hprincipal, by rw [hgrant, hdatabase, hwithin]⟩
  · rintro ⟨_, _, hv, hprincipal', hsame⟩
    obtain rfl := Value.doc.inj hv
    obtain rfl := Value.doc.inj (Option.some.inj (hprincipal.symm.trans hprincipal'))
    exact Value.str.inj (Option.some.inj (hgrant.symm.trans (hsame.trans hdatabase)))

end SeedSpec

/-! ### The scope of the grant -/

/-- **The scope of the grant.**  A run gives one command at the most, and none if the user is skipped: it
creates the user in the database of users, nothing comes before it but the look-up of that database, and its
one grant is on the database that is brought up just when the specification says so.  The built-in layout
does; what is loaded does just when the value names one database for both. -/
theorem Plan.provision_grant_scope (plan : Plan) (now : Instant) (sight : Sight) (s : Server)
    (faults : List Fault) :
    let run := (plan.provision now).run sight s faults
    (∀ c ∈ run.calls, c.kind = .command →
        plan.skipPrincipal = false ∧ c = plan.grantCommand ∧
        (∃ later, run.calls = .database adminDatabase :: c :: later ∧ ∀ d ∈ later, d.kind ≠ .command) ∧
        c.grantDatabases = [.str plan.spec.principal.grantDatabase] ∧
        ((∀ d ∈ c.grantDatabases, d = .str plan.spec.database) ↔ plan.spec.GrantsWithin)) ∧
      (∀ database user password role,
        SeedSpec.builtIn database user password role = .ok plan.spec → plan.spec.GrantsWithin) ∧
      ∀ v, SeedSpec.load v = .ok plan.spec → (plan.spec.GrantsWithin ↔ v.NamesOneDatabase) := by
  intro run
  refine ⟨fun c hc hcommand => ?_, fun _ _ _ _ => SeedSpec.grantsWithin_of_builtIn,
    fun _ => SeedSpec.grantsWithin_iff_of_load⟩
  obtain ⟨later, hlater, hcalls | ⟨hskip, hcalls⟩⟩ := calls_provision plan now sight s faults
  · exact absurd hcommand (hlater c (hcalls ▸ hc))
  obtain rfl : c = plan.grantCommand := by
    have hc' := hcalls ▸ hc
    rcases List.mem_cons.1 hc' with rfl | hc'
    · cases hcommand
    rcases List.mem_cons.1 hc' with rfl | hc'
    · rfl
    · exact absurd hcommand (hlater c hc')
  refine ⟨hskip, rfl, ⟨later, hcalls, hlater⟩, grantDatabases_grantCommand, ?_⟩
  rw [grantDatabases_grantCommand, List.forall_mem_singleton, Value.str.injEq]
  rfl

/-- A specification that grants a role on the database of users. -/
def Value.grantingAdmin : Value :=
  .doc [("database", .str "app"),
    ("principal", .doc [("name", .str "service"), ("secret", .str "secret"), ("role", .str "readWrite"),
      ("grant_db", .str "admin")]),
    ("collections", .list [.doc [("name", .str "users")]])]

/-- The same as it is loaded, all steps to be taken. -/
def Plan.grantingAdmin : Plan :=
  ⟨⟨"app", ⟨"service", "secret", "readWrite", "admin"⟩, [⟨"users", []⟩], []⟩, .skip, false, false⟩

/-- The run of the built-in layout creates its user with a grant on its own database. -/
theorem Plan.provision_grant_scope_builtIn :
    let run := (builtIn.provision .epoch).run .clear ⟨[], [], 0⟩ []
    SeedSpec.builtIn (.str "app") (.str "service") (.str "secret") (.str "readWrite") = .ok builtIn.spec ∧
      builtIn.grantCommand ∈ run.calls ∧
      ∀ d ∈ builtIn.grantCommand.grantDatabases, d = .str "app" := by
  intro run
  have hspec : SeedSpec.builtIn (.str "app") (.str "service") (.str "secret") (.str "readWrite") =
      .ok builtIn.spec := by rfl
  have hc : builtIn.grantCommand ∈ run.calls := by decide +kernel
  obtain ⟨hcalls, hbuiltIn, -⟩ := provision_grant_scope builtIn .epoch .clear ⟨[], [], 0⟩ []
  obtain ⟨-, -, -, -, hscope⟩ := hcalls _ hc rfl
  exact ⟨hspec, hc, hscope.2 (hbuiltIn _ _ _ _ hspec)⟩

/-- A specification for one database is loaded that grants the role on another one, and its run gives the command
with that grant. -/
theorem Plan.provision_grants_elsewhere :
    let run := (grantingAdmin.provision .epoch).run .clear ⟨[], [], 0⟩ []
    SeedSpec.load .grantingAdmin = .ok grantingAdmin.spec ∧ grantingAdmin.spec.database = "app" ∧
      ∃ c ∈ run.calls, c.kind = .command ∧ c.grantDatabases = [.str "admin"] := by
  intro run
  have hload : SeedSpec.load .grantingAdmin = .ok grantingAdmin.spec := by rfl
  exact ⟨hload, rfl, grantingAdmin.grantCommand, by decide +kernel, rfl, rfl⟩

end Bringup
