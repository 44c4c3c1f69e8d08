import Bringup.Proofs.CommandLine.Conduct
import Bringup.Proofs.Program.Runs
import Bringup.Proofs.Spec.Grammar
import Bringup.Proofs.Verification.Satisfied

/-!
# What an exit code says

* `Options.Stages`, `Options.stages` : the stages of a run: a client is opened, the database is brought up
  and verified, the client is closed;
* `Options.TellsEnd`, `Options.tellsEnd_run` : a run ends well with the completion message as all that it
  prints, or it ends in another way and prints nothing;
* `Options.run_eq_ok_iff` : a run ends well just when its stages go well;
* `Options.assures_run` : after such a run with a verification, the server holds what is declared;
* `Invocation.exit_trusted` : what the exit code of a command line says of its run.

What is said in the log is not printed.  The stages only log, and complain to the error output, so that the
completion message is the one text that a run prints.
-/

namespace Bringup

/-! ### The stages of a run -/

namespace Options

/-- The stages of a run.  A stage is given here also where one before it has failed, though it was not
gone through then. -/
structure Stages where
  opened : Run Unit
  provisioned : Run Report
  verified : Run Verification
  closed : Run Unit

/-- Each stage at the server and under the faults that the one before has left. -/
def stages (o : Options) (settings : Settings) (spec : SeedSpec) (now : Instant) (sight : Sight)
    (s : Server) (faults : List Fault) : Stages :=
  let opened := settings.openClient.run sight s faults
  let provisioned := ((o.plan settings spec).provision now).run sight opened.server opened.faults
  let verified := spec.verify.run sight provisioned.server provisioned.faults
  { opened, provisioned, verified
    closed :=
      if o.verify then closeClient.run sight verified.server verified.faults
      else closeClient.run sight provisioned.server provisioned.faults }

/-- A client was opened, the database was brought up, a verification that was asked for has found no
problem, and the client was closed. -/
structure Stages.GoWell (x : Stages) (verify : Bool) : Prop where
  opened : x.opened.result = .ok ()
  provisioned : ∃ report, x.provisioned.result = .ok report
  verified : verify = true → ∃ found, x.verified.result = .ok found ∧ found.ok = true
  closed : x.closed.result = .ok ()

variable {o : Options} {settings : Settings} {spec : SeedSpec} {host : Host} {now : Instant}
  {sight : Sight} {s : Server} {faults : List Fault}

theorem result_run_check : ((o.check spec).run sight s faults).result = .ok true ↔
    (o.verify = true → ∃ found,
      (spec.verify.run sight s faults).result = .ok found ∧ found.ok = true) := by
  unfold check
  split
  · rename_i hverify
    change ((Program.bind _ _).run _ _ _).result = _ ↔ _
    rw [Program.run_bind, Run.result_andThen_eq_ok_iff, imp_iff_right hverify]
    refine exists_congr fun found => and_congr_right fun _ => ?_
    cases found.ok with
    | true => exact ⟨fun _ => rfl, fun _ => rfl⟩
    | false => exact ⟨nofun, nofun⟩
  · rename_i hverify
    exact ⟨fun _ h => absurd h hverify, fun _ => rfl⟩

/-- The run comes to where the verification comes to, or it stays where it was. -/
theorem place_run_check : ((o.check spec).run sight s faults).server =
      (if o.verify then (spec.verify.run sight s faults).server else s) ∧
    ((o.check spec).run sight s faults).faults =
      (if o.verify then (spec.verify.run sight s faults).faults else faults) := by
  unfold check
  split
  · change (Program.run _ (Program.bind _ _) _ _).server = _ ∧
      (Program.run _ (Program.bind _ _) _ _).faults = _
    rw [Program.run_bind]
    cases hr : (spec.verify.run sight s faults).result with
    | ok found =>
      rw [Run.andThen_of_ok hr]
      cases hok : found.ok <;> exact ⟨rfl, rfl⟩
    | error e =>
      rw [Run.andThen_of_error hr]
      exact ⟨rfl, rfl⟩
  · exact ⟨rfl, rfl⟩

/-- The work of a run is done well just when the database was brought up, and a verification that was asked
for has found no problem. -/
theorem result_run_work :
    let x := o.stages settings spec now sight s faults
    ((o.work settings spec now).run sight x.opened.server x.opened.faults).result = .ok true ↔
      (∃ report, x.provisioned.result = .ok report) ∧
        (o.verify = true → ∃ found, x.verified.result = .ok found ∧ found.ok = true) := by
  intro x
  change (Program.run _ (Program.bind _ _) _ _).result = _ ↔ _
  rw [Program.run_bind, Run.result_andThen_eq_ok_iff]
  change (∃ report, x.provisioned.result = .ok report ∧
    ((o.check spec).run sight x.provisioned.server x.provisioned.faults).result = .ok true) ↔ _
  rw [exists_and_right, result_run_check]
  rfl

/-- Where the database was brought up, the client is closed after the work. -/
theorem closed_eq_of_provisioned {report : Report}
    (h : (o.stages settings spec now sight s faults).provisioned.result = .ok report) :
    let x := o.stages settings spec now sight s faults
    let work := (o.work settings spec now).run sight x.opened.server x.opened.faults
    x.closed = closeClient.run sight work.server work.faults := by
  intro x work
  have hwork : work = x.provisioned.andThen _ := Program.run_bind _ _ _ _
  rw [hwork, Run.andThen_of_ok h]
  change x.closed = closeClient.run sight
    ((o.check spec).run sight x.provisioned.server x.provisioned.faults).server
    ((o.check spec).run sight x.provisioned.server x.provisioned.faults).faults
  rw [place_run_check.1, place_run_check.2]
  change (if o.verify then _ else _) = _
  split <;> rfl

/-! ### How runs end -/

/-- The run has ended well and has printed the completion message; or it has found problems or failed, and has
printed nothing. -/
def TellsEnd (r : Run ExitCode) : Prop :=
  (r.result = .ok .ok ∧ r.printed = [completionMessage]) ∨
    (r.result = .ok .failure ∧ r.printed = []) ∨ ∃ e, r.result = .error e ∧ r.printed = []

theorem TellsEnd.printed_of_error {r : Run ExitCode} {e : Failure} (h : TellsEnd r)
    (hr : r.result = .error e) : r.printed = [] := by
  rcases h with ⟨hend, -⟩ | ⟨-, hprinted⟩ | ⟨-, -, hprinted⟩
  · cases hr.symm.trans hend
  · exact hprinted
  · exact hprinted

theorem tellsEnd_bind {α : Type} {P : Call → Prop} {p : Program α} {f : α → Program ExitCode}
    (h : p.Within Remark.IsUnprinted P)
    (next : ∀ a t left, TellsEnd ((f a).run sight t left)) : TellsEnd ((p.bind f).run sight s faults) := by
  have hnothing := h.printed sight s faults
  rw [Program.run_bind]
  cases hr : (p.run sight s faults).result with
  | ok a =>
    have hnext := next a (p.run sight s faults).server (p.run sight s faults).faults
    unfold TellsEnd at hnext ⊢
    rwa [Run.printed_andThen_of_ok hr, hnothing, List.nil_append, Run.andThen_of_ok hr]
  | error e =>
    refine .inr (.inr ⟨e, ?_, ?_⟩)
    · rw [Run.andThen_of_error hr]
    · rw [Run.printed_andThen_of_error hr, hnothing]

theorem tellsEnd_run : TellsEnd ((o.run settings host).run sight s faults) := by
  have hquiet {α : Type} {p : Program α} {P : Call → Prop} (h : p.Within Remark.IsEntry P) :
      p.Within Remark.IsUnprinted fun _ => True := h.mono (fun _ h => h.isUnprinted) fun _ _ => trivial
  refine tellsEnd_bind (P := fun _ => True) Program.within_ofExcept fun spec _ _ => ?_
  refine tellsEnd_bind (hquiet settings.within_openClient) fun _ _ _ => ?_
  refine tellsEnd_bind (Program.within_ensuring (within_work.mono (fun _ h => h) fun _ _ => trivial)
    (hquiet within_closeClient)) fun sound _ _ => ?_
  cases sound with
  | true => exact .inl ⟨rfl, rfl⟩
  | false => exact .inr (.inl ⟨rfl, rfl⟩)

/-- What comes after the client is opened ends well just when the work is done well and the client is
closed. -/
theorem result_run_guarded {work : Program Bool} {t : Server} {left : List Fault} :
    (((work.ensuring closeClient).bind fun sound =>
      (if sound then do Program.print completionMessage; return .ok
        else return .failure : Program ExitCode)).run sight t left).result = .ok .ok ↔
    (work.run sight t left).result = .ok true ∧
      (closeClient.run sight (work.run sight t left).server (work.run sight t left).faults).result =
        .ok () := by
  have hfinish (sound : Bool) (t : Server) (left : List Fault) :
      ((if sound then do Program.print completionMessage; return .ok
        else return .failure : Program ExitCode).run sight t left).result = .ok .ok ↔ sound = true := by
    cases sound with
    | true => exact ⟨fun _ => rfl, fun _ => rfl⟩
    | false => exact ⟨nofun, nofun⟩
  rw [Program.run_bind, Run.result_andThen_eq_ok_iff]
  simp only [hfinish, exists_eq_right, Program.result_run_ensuring]

/-- A run ends well just when its stages go well. -/
theorem run_eq_ok_iff : ((o.run settings host).run sight s faults).result = .ok .ok ↔
    ∃ spec, o.spec settings host = .ok spec ∧
      (o.stages settings spec host.now sight s faults).GoWell o.verify := by
  change ((Program.bind _ _).run _ _ _).result = _ ↔ _
  rw [Program.run_bind, Run.result_andThen_eq_ok_iff]
  simp only [Program.run_ofExcept]
  refine exists_congr fun spec => and_congr_right fun _ => ?_
  change ((Program.bind _ _).run _ _ _).result = _ ↔ _
  rw [Program.run_bind, Run.result_andThen_eq_ok_iff]
  let x := o.stages settings spec host.now sight s faults
  change (∃ u, x.opened.result = .ok u ∧
    ((Program.bind _ _).run sight x.opened.server x.opened.faults).result = _) ↔ x.GoWell _
  constructor
  · rintro ⟨_, hopened, hrest⟩
    obtain ⟨hwork, hclosed⟩ := result_run_guarded.1 hrest
    obtain ⟨⟨report, hreport⟩, hverified⟩ := result_run_work.1 hwork
    refine ⟨hopened, ⟨report, hreport⟩, hverified, ?_⟩
    rw [closed_eq_of_provisioned hreport]
    exact hclosed
  · rintro ⟨hopened, ⟨report, hreport⟩, hverified, hclosed⟩
    rw [closed_eq_of_provisioned hreport] at hclosed
    exact ⟨(), hopened,
      result_run_guarded.2 ⟨result_run_work.2 ⟨⟨report, hreport⟩, hverified⟩, hclosed⟩⟩

/-! ### The server after a run -/

/-- A specification that a run uses is valid. -/
theorem valid_of_spec (h : o.spec settings host = .ok spec) : spec.Valid := by
  unfold Options.spec at h
  split at h
  · rename_i path _
    unfold SeedFile.read at h
    split at h
    · cases h
    split at h
    · cases h
    split at h
    · cases h
    obtain ⟨v, -, hload⟩ := exists_of_bind_eq_ok h
    exact (SeedSpec.load_eq_ok_iff.1 hload).2
  · split at h
    · rename_i hspec
      obtain rfl := Except.ok.inj h
      exact SeedSpec.valid_of_builtIn hspec
    · cases h

/-- After work that was done well, with a verification, the server satisfies the specification. -/
theorem assures_work (hv : spec.Valid) : (o.work settings spec now).Assures (.alone .any)
    (fun sound t => sound = true → o.verify = true → spec.Satisfied t) (fun _ _ => True) s := by
  refine Program.assures_bind ((Program.assures_anything _ s).mono (fun _ t _ => ?_) fun _ _ h => h)
  refine Program.assures_bind (Program.assures_say ?_)
  unfold check
  split
  · refine Program.assures_bind (Program.Assures.mono (SeedSpec.sees_verify (s := t) hv.rolesDeclared)
      (fun found u hfound => ?_) fun _ _ _ => trivial)
    obtain ⟨rfl, hsatisfied⟩ := hfound
    split
    · rename_i hok
      exact fun _ _ => hsatisfied hok
    · exact fun hsound => nomatch hsound
  · rename_i hverify
    exact fun _ h => absurd h hverify

theorem sees_closeClient : closeClient.Sees (fun _ => True) s := by
  have hclose : (Program.perform .close).Sees (fun _ => True) s :=
    Program.sees_perform fun _ => ⟨(), rfl, trivial⟩
  exact Program.sees_bind hclose fun _ _ => Program.sees_say

/-- After a run that ended well, with a verification, the server satisfies the specification. -/
theorem assures_run : (o.run settings host).Assures (.alone .any)
    (fun code t => code = .ok → o.verify = true →
      ∃ spec, o.spec settings host = .ok spec ∧ spec.Satisfied t) (fun _ _ => True) s := by
  refine Program.assures_bind ?_
  cases hspec : o.spec settings host with
  | error e => trivial
  | ok spec =>
    refine Program.assures_bind ((Program.assures_anything _ s).mono (fun _ t _ => ?_) fun _ _ h => h)
    have hwork : (o.work settings spec host.now).attempt.Assures (.alone .any)
        (fun r u => r = .ok true → o.verify = true → spec.Satisfied u) (fun _ _ => True) t :=
      Program.assures_attempt ((assures_work (valid_of_spec hspec)).mono
        (fun sound u hsound heq => hsound (Except.ok.inj heq)) fun _ _ _ => nofun)
    refine Program.assures_bind (Program.assures_bind (hwork.mono (fun r u hr => ?_) fun _ _ h => h))
    -- closing the client leaves the server as it is
    refine Program.assures_bind (Program.Assures.mono sees_closeClient (fun _ w hw => ?_)
      fun _ _ _ => trivial)
    obtain ⟨rfl, -⟩ := hw
    match r with
    | .error e => trivial
    | .ok true => exact fun _ hverify => ⟨spec, rfl, hr rfl hverify⟩
    | .ok false => exact nofun

/-! ### The whole run -/

/-- Only failures of the taxonomy and interruptions are told and have a code. -/
theorem result_run_conclude {e : Failure} {code : ExitCode} :
    ((conclude e).run sight s faults).result = .ok code ↔
      (code = .failure ∧ ∃ kind message step cause, e = .provision kind message step cause) ∨
        (code = .interrupted ∧ ∃ message cause, e = .runtime .interrupt message cause) := by
  unfold conclude
  split
  · change Except.ok ExitCode.failure = Except.ok code ↔ _
    constructor
    · intro h
      exact .inl ⟨(Except.ok.inj h).symm, _, _, _, _, rfl⟩
    · rintro (⟨rfl, -⟩ | ⟨-, _, _, h⟩)
      · rfl
      · cases h
  · change Except.ok ExitCode.interrupted = Except.ok code ↔ _
    constructor
    · intro h
      exact .inr ⟨(Except.ok.inj h).symm, _, _, rfl⟩
    · rintro (⟨-, _, _, _, _, h⟩ | ⟨rfl, -⟩)
      · cases h
      · rfl
  · rename_i hprovision hinterrupt
    constructor
    · nofun
    · rintro (⟨-, kind, message, step, cause, rfl⟩ | ⟨-, message, cause, rfl⟩)
      · exact (hprovision _ _ _ _ rfl).elim
      · exact (hinterrupt _ _ rfl).elim

/-- The whole run ends as the run that it consists of, but failures of the taxonomy and interruptions have a
code. -/
theorem result_run_main {code : ExitCode} :
    let run := (o.run settings host).run sight s faults
    ((o.main settings host).run sight s faults).result = .ok code ↔
      run.result = .ok code ∨
      (code = .failure ∧ ∃ kind message step cause,
        run.result = .error (.provision kind message step cause)) ∨
      (code = .interrupted ∧ ∃ message cause,
        run.result = .error (.runtime .interrupt message cause)) := by
  dsimp only
  change (Program.run sight (Program.bind (o.run settings host).attempt _) s faults).result = _ ↔ _
  rw [Program.run_bind, Program.run_attempt, Run.andThen_of_ok rfl]
  cases (o.run settings host).run sight s faults with
  | mk result server left events =>
    cases result with
    | ok code' => exact ⟨.inl, fun h => h.resolve_right (by simp)⟩
    | error e => simp only [result_run_conclude, reduceCtorEq, false_or, Except.error.injEq]

theorem printed_run_main : ((o.main settings host).run sight s faults).printed =
    ((o.run settings host).run sight s faults).printed := by
  change (Program.run sight (Program.bind (o.run settings host).attempt _) s faults).printed = _
  rw [Program.run_bind, Program.run_attempt, Run.printed_andThen_of_ok rfl]
  cases (o.run settings host).run sight s faults with
  | mk result server left events =>
    cases result with
    | ok code => exact List.append_nil _
    | error e =>
      have hprinted : ((conclude e).run sight server left).printed = [] :=
        (within_conclude (P := fun _ => True)).printed sight server left
      exact (congrArg _ hprinted).trans (List.append_nil _)

theorem assures_main : (o.main settings host).Assures (.alone .any)
    (fun code t => code = .ok → o.verify = true →
      ∃ spec, o.spec settings host = .ok spec ∧ spec.Satisfied t) (fun _ _ => True) s := by
  refine Program.assures_bind (Program.assures_say (Program.assures_bind (Program.assures_attempt
    (assures_run.mono (fun code t h => h) fun e t _ => ?_))))
  change (conclude e).Assures _ _ _ t
  unfold conclude
  split
  · exact nofun
  · exact nofun
  · trivial

end Options

/-! ### Command lines -/

namespace Invocation

/-- The program that a command line leads to, unless it ends with words about its use. -/
def program? : Invocation → Option (Program ExitCode)
  | .usage _ => none
  | .misconfigured c => some (refuse c)
  | .running _ program => some program

variable {words : List String} {host : Host} {o : Options} {p : Program ExitCode} {sight : Sight}
  {s : Server} {faults : List Fault} {code : ExitCode}

/-- A program comes from accepted words.  It refuses the settings, or runs by them. -/
theorem exists_of_program? (hp : (ofWords words host).program? = some p) :
    ∃ o, Options.parse words = .ok o ∧
      ((∃ c, Settings.load host.sources = .error c ∧ p = refuse c) ∨
        ∃ settings, Settings.load host.sources = .ok settings ∧ p = o.main settings host) := by
  unfold ofWords at hp
  cases hwords : Options.parse words with
  | error halt =>
    rw [hwords] at hp
    cases hp
  | ok o =>
    simp only [hwords] at hp
    refine ⟨o, rfl, ?_⟩
    cases hload : Settings.load host.sources with
    | error c =>
      rw [hload] at hp
      exact .inl ⟨c, rfl, (Option.some.inj hp).symm⟩
    | ok settings =>
      rw [hload] at hp
      exact .inr ⟨settings, rfl, (Option.some.inj hp).symm⟩

/-- **The exit code can be trusted.**  Of every accepted command line, whatever befalls the calls of its
run: where it ends with a code, the completion message is printed once if the code is zero, and nothing is
printed otherwise; the code is zero just when the client was opened, the database was brought up, a
verification that was asked for has found no problem, and the client was closed; it is that of an
interruption just when one came out of the run.  A code of zero after a verification says that the server
holds what the specification declares. -/
theorem exit_trusted (hwords : Options.parse words = .ok o)
    (hp : (ofWords words host).program? = some p) (hcode : (p.run sight s faults).result = .ok code) :
    (p.run sight s faults).printed = (if code = .ok then [completionMessage] else []) ∧
      (code = .ok ↔ ∃ settings spec, Settings.load host.sources = .ok settings ∧
        o.spec settings host = .ok spec ∧
        (o.stages settings spec host.now sight s faults).GoWell o.verify) ∧
      (code = .interrupted ↔ ∃ settings message cause, Settings.load host.sources = .ok settings ∧
        ((o.run settings host).run sight s faults).result =
          .error (.runtime .interrupt message cause)) ∧
      (code = .ok → o.verify = true → ∃ settings spec, Settings.load host.sources = .ok settings ∧
        o.spec settings host = .ok spec ∧ spec.Satisfied (p.run sight s faults).server) := by
  obtain ⟨o', hwords', hcase⟩ := exists_of_program? hp
  obtain rfl : o = o' := Except.ok.inj (hwords.symm.trans hwords')
  rcases hcase with ⟨c, hload, rfl⟩ | ⟨settings, hload, rfl⟩
  -- the settings are refused, and nothing is run
  · obtain rfl := Except.ok.inj hcode
    simp only [hload]
    exact ⟨rfl, by simp, by simp, nofun⟩
  simp only [hload, Except.ok.injEq, exists_and_left, exists_eq_left', ← Options.run_eq_ok_iff,
    Options.printed_run_main]
  have hserver : code = .ok → o.verify = true → ∃ spec, o.spec settings host = .ok spec ∧
      spec.Satisfied ((o.main settings host).run sight s faults).server := by
    have hcourse := Program.course_run (show Weather.any.sights sight from trivial)
      (o.main settings host) s faults fun _ _ _ => trivial
    rw [hcode] at hcourse
    exact Options.assures_main.course_alone hcourse
  have hends : Options.TellsEnd ((o.run settings host).run sight s faults) := Options.tellsEnd_run
  rcases Options.result_run_main.1 hcode with hresult | ⟨rfl, kind, message, step, cause, hresult⟩ |
    ⟨rfl, message, cause, hresult⟩
  · rcases hends with ⟨hend, hprinted⟩ | ⟨hend, hprinted⟩ | ⟨e, hend, -⟩
    · obtain rfl := Except.ok.inj (hresult.symm.trans hend)
      exact ⟨hprinted, by simp [hresult], by simp [hresult], hserver⟩
    · obtain rfl := Except.ok.inj (hresult.symm.trans hend)
      exact ⟨hprinted, by simp [hresult], by simp [hresult], hserver⟩
    · cases hresult.symm.trans hend
  · have hprinted := hends.printed_of_error hresult
    exact ⟨hprinted, by simp [hresult], by simp [hresult], nofun⟩
  · have hprinted := hends.printed_of_error hresult
    exact ⟨hprinted, by simp [hresult], by simp [hresult], nofun⟩

/-- No settings are given, and there are no files. -/
def bareHost : Host := ⟨.empty, fun _ => .error .missing, .epoch⟩

/-- The creation of a collection is refused as if it were there already. -/
def swallowedCreation : Fault :=
  ⟨.createCollection, some "users", 0, 1, .ofDriver .operation "" (some 48) none none⟩

/-- A run that asks for nothing but a verification. -/
def verifyingRun : Program ExitCode := ((ofWords ["--verify"] bareHost).program?).getD (.fail default)

instance (r : Except Failure ExitCode) (code : ExitCode) : Decidable (r = .ok code) :=
  match r with
  | .ok code' => decidable_of_iff (code' = code) ⟨congrArg _, Except.ok.inj⟩
  | .error _ => isFalse nofun

/-- The missing collection comes into being with its first index, and the run ends well. -/
theorem exit_trusted_swallowed :
    let o : Options := { Options.none with verify := true }
    let run := verifyingRun.run .clear .empty [swallowedCreation]
    run.result = .ok .ok ∧ run.printed = [completionMessage] ∧
      ∃ settings spec, Settings.load bareHost.sources = .ok settings ∧
        o.spec settings bareHost = .ok spec ∧ spec.Satisfied run.server := by
  intro o run
  have hwords : Options.parse ["--verify"] = .ok o := by decide +kernel
  have hp : (ofWords ["--verify"] bareHost).program? = some verifyingRun := rfl
  have hcode : run.result = .ok .ok := by decide +kernel
  obtain ⟨hprinted, -, -, hserver⟩ := exit_trusted hwords hp hcode
  exact ⟨hcode, hprinted, hserver rfl rfl⟩

end Invocation

end Bringup
