import Bringup.Proofs.Provision.Account
import Bringup.Proofs.Server.Sound
import Bringup.Verification

/-!
# How failures of the driver surface

* `Failure.SurfacesAs` : a failure of the driver is raised with a class and the step that guards its call,
  or as it is where no step does;
* `EndsByLast` : a program ends with what became of the failure of its last call;
* `SeedSpec.recounts_verify` : so does every failing verification at a sound server;
* `surfaces_of_sound` : so do failing runs of a plan, but for conflicts of indexes.

In both programs the calls without a guard are look-ups, made before a guarded part is entered.  Their
failures are raised without a class and without a step.
-/

namespace Bringup

/-- What a failure `d` of the driver is raised as, given the name of the step that guards its call. -/
def Failure.SurfacesAs (guard : Option String) (d e : Failure) : Prop :=
  match guard with
  | some step => step ≠ "" ∧ e = .provision d.kindOf d.message (some step) (some d)
  | none => e = d

/-- The last call failed, and the program with it.  `guard` names the step that guards a call after others;
only a look-up may have none. -/
def EndsByLast (guard : Nat → Call → Option String) (e : Failure) (xs : List Exchange) : Prop :=
  ∃ before c d, xs = before ++ [⟨c, .error d⟩] ∧ (guard before.length c = none → c.IsLookup) ∧
    d.SurfacesAs (guard before.length c) e

/-! ### Verification -/

namespace SeedSpec

/-- In a verification all calls are guarded but the look-up of the database. -/
def guard? (_ : Nat) (c : Call) : Option String :=
  if c.kind = .database then none else some verifyStep

/-- What ends the guarded part of a verification. -/
def LastFailed (e : Failure) (xs : List Exchange) : Prop :=
  ∃ before c, xs = before ++ [⟨c, .error e⟩] ∧ c.kind ≠ .database ∧ e.isDriver = true

variable {spec : SeedSpec} {xs : List Exchange} {existing : List String}

/-- A call of the guarded part. -/
theorem recounts_read {c : Call} {ok : c.Reply → List Exchange → Prop} (hkind : c.kind ≠ .database)
    (answered : ∀ reply, c.SoundReply reply → ok reply (xs ++ [⟨c, .ok reply⟩])) :
    (Program.perform c).Recounts Exchange.Sound ok LastFailed xs :=
  Program.recounts_perform answered fun _ he =>
    ⟨xs, c, rfl, hkind, Failure.FromDriver.isDriver he⟩

/-- A loop of which nothing is told but how it fails. -/
theorem recounts_loop {α β : Type} {f : α → Program β} {items : List α}
    {bad : Failure → List Exchange → Prop}
    (h : ∀ a ys, (f a).Recounts Exchange.Sound (fun _ _ => True) bad ys) :
    (Program.each f items).Recounts Exchange.Sound (fun _ _ => True) bad xs :=
  Program.recounts_each (fun a _ ys _ => h a ys) trivial

/-- The indexes of a sound server can be compared with declared ones. -/
theorem exists_indexProblems (name : String) {reported : Assoc IndexInfo}
    (h : ∀ p ∈ reported, p.2.isWhole = true) (indexes : List IndexSpec) :
    ∃ problems, indexProblems name reported indexes = .ok problems := by
  induction indexes with
  | nil => exact ⟨[], rfl⟩
  | cons index rest ih =>
    obtain ⟨problems, hrest⟩ := ih
    have hindex : ∃ found, indexProblem name reported index = .ok found := by
      rw [indexProblem]
      cases hl : reported.lookup index.indexName with
      | none => exact ⟨_, rfl⟩
      | some info =>
        obtain ⟨same, hsame⟩ := index.exists_matches? (h _ (Assoc.mem_of_lookup hl))
        simp only [hsame]
        exact ⟨_, rfl⟩
    obtain ⟨found, hfound⟩ := hindex
    rw [indexProblems, hfound, hrest]
    exact ⟨_, rfl⟩

theorem recounts_verifyCollection {c : CollectionSpec} :
    (spec.verifyCollection existing c).Recounts Exchange.Sound (fun _ _ => True) LastFailed xs := by
  unfold verifyCollection
  split
  · refine Program.recounts_bind (recounts_read nofun fun _ _ => ?_)
    refine Program.recounts_bind (recounts_read nofun fun reported hreported => ?_)
    refine Program.recounts_bind (recounts_read nofun fun _ _ => ?_)
    obtain ⟨problems, hproblems⟩ := exists_indexProblems c.name hreported c.indexes
    simp only [hproblems]
    trivial
  · trivial

theorem recounts_verifyRoles : (spec.verifyRoles existing).Recounts Exchange.Sound
    (fun _ _ => True) LastFailed xs := by
  unfold verifyRoles
  split
  · refine Program.recounts_bind (recounts_read nofun fun _ _ => ?_)
    have hrole (r : RoleSeed) (ys : List Exchange) :
        (spec.verifyRole r).Recounts Exchange.Sound (fun _ _ => True) LastFailed ys :=
      Program.recounts_bind (recounts_read nofun fun _ _ => trivial)
    exact (recounts_loop hrole).seq fun _ _ _ => trivial
  · trivial

theorem recounts_inspectDatabase : spec.inspectDatabase.Recounts Exchange.Sound
    (fun _ _ => True) LastFailed xs := by
  refine Program.recounts_bind (recounts_read nofun fun existing _ => ?_)
  refine (recounts_loop fun _ _ => recounts_verifyCollection).seq fun found _ _ => ?_
  exact recounts_verifyRoles.seq fun _ _ _ => trivial

/-- A verification at a sound server returns what it has found, or ends with what became of the failure of
its last call. -/
theorem recounts_verify : spec.verify.Recounts Exchange.Sound (fun _ _ => True)
    (EndsByLast guard?) [] := by
  refine Program.recounts_bind (Program.recounts_perform (fun _ _ => ?_) fun e _ => ?_)
  · refine (recounts_inspectDatabase.rescue fun e ys he => ?_).seq fun found _ _ => ?_
    · obtain ⟨before, c, rfl, hkind, hdriver⟩ := he
      have hguard : guard? before.length c = some verifyStep := if_neg hkind
      rw [if_pos hdriver]
      refine Program.recounts_bind (Program.recounts_say (Program.recounts_fail
        ⟨before, c, e, rfl, by simp [hguard], ?_⟩))
      rw [hguard]
      exact ⟨by decide, Failure.classify_of_isDriver hdriver⟩
    · have hsay (entry : Entry) (zs : List Exchange) : (Program.say entry).Recounts Exchange.Sound
          (fun _ _ => True) (EndsByLast guard?) zs := Program.recounts_say trivial
      refine (recounts_loop hsay).seq fun _ _ _ => ?_
      exact (recounts_loop hsay).seq fun _ _ _ => trivial
  · exact ⟨[], _, e, rfl, fun _ => .inl rfl, rfl⟩

end SeedSpec

/-! ### Runs of a plan -/

namespace Plan

variable {plan : Plan} {xs : List Exchange} {e : Failure}

/-- The name of the step that guards a call of a run. -/
def guardName? (plan : Plan) (k : Nat) (c : Call) : Option String :=
  (plan.guard? k c).map Step.name

/-- The failure is that of an index that is there with another definition. -/
def IsConflict (e : Failure) : Prop := ∃ target index info, e = indexConflict target index info

/-- At a sound server the only failures that runs have by themselves are conflicts. -/
theorem owns_conflicts : Owns Exchange.Sound IsConflict where
  conflict := fun target index info => ⟨target, index, info, rfl⟩
  direction := fun database name existing hread index info e hl he => by
    obtain ⟨same, hsame⟩ := index.exists_matches? (hread _ (Assoc.mem_of_lookup hl))
    rw [hsame] at he
    cases he
  identity := fun database name filter stored hread hl => by
    have hidentity := hread stored rfl
    rw [hl] at hidentity
    cases hidentity

theorem endsByLast_of_stops (h : plan.Stops IsConflict e xs) (hxs : ∀ x ∈ xs, x.Sound)
    (hconflict : ¬ IsConflict e) : EndsByLast plan.guardName? e xs := by
  obtain ⟨before, c, d, rfl, -, hlookup, rfl⟩ := h.last hconflict
  have hd : d.FromDriver := hxs _ List.mem_concat_self
  refine ⟨before, c, d, rfl, fun hnone => hlookup (Option.map_eq_none_iff.1 hnone), ?_⟩
  cases hguard : plan.guard? before.length c with
  | none =>
    rw [guardName?, hguard]
    exact raised_of_no_guard hguard
  | some step =>
    rw [guardName?, hguard]
    exact ⟨by cases step <;> decide, raised_of_guard hguard hd.isDriver⟩

end Plan

/-! ### Both programs -/

/-- **Failures surface.**  At a sound server, when calls fail as the driver does: a run of a plan that ends
with a failure has met a conflict, or ends with what became of the failure of its last call; and so ends
every verification that does not return.  These failures are raised with a class, a step and their cause,
but for those of look-ups that no step guards. -/
theorem surfaces_of_sound (plan : Plan) (now : Instant) {s : Server} (hs : s.Sound) :
    (∀ xs e t, Program.Transcript .driver (plan.provision now) s xs (.error e) t →
      Plan.IsConflict e ∨ EndsByLast plan.guardName? e xs) ∧
    ∀ xs e t, Program.Transcript .driver plan.spec.verify s xs (.error e) t →
      EndsByLast SeedSpec.guard? e xs := by
  refine ⟨fun xs e t h => ?_, fun xs e t h => ?_⟩
  · rw [or_iff_not_imp_left]
    exact Plan.endsByLast_of_stops
      ((Plan.recounts_provision Plan.owns_conflicts now).transcript Weather.gives_sound hs h)
      (h.gives Weather.gives_sound hs)
  · exact SeedSpec.recounts_verify.transcript Weather.gives_sound hs h

/-- The driver refuses to look up the database, as it does when the name is malformed. -/
def misnamedDatabase : Fault :=
  ⟨.database, some "app", 0, 1, .ofDriver .invalidName "invalid database name" none none none⟩

theorem transcript_misnamed {α : Type} (p : Program α) (s : Server) :
    Program.Transcript .driver p s (p.exchanges .clear s [misnamedDatabase])
      (p.run .clear s [misnamedDatabase]).result (p.run .clear s [misnamedDatabase]).server :=
  Program.transcript_fault p s (Failure.fromDriver_ofDriver .invalidName _ none none none)

theorem Server.sound_drifted : Server.drifted.Sound :=
  sound_putCollection (s := ⟨["service"], [], 0⟩) (fun _ _ => Collection.sound_empty)
    ⟨nofun, by decide⟩

theorem surfaces_of_sound_drifted :
    let provision := Plan.builtIn.provision .epoch
    let verify := Plan.builtIn.spec.verify
    (Plan.IsConflict misnamedDatabase.failure ∨
      EndsByLast Plan.builtIn.guardName? misnamedDatabase.failure
        (provision.exchanges .clear .drifted [misnamedDatabase])) ∧
      EndsByLast SeedSpec.guard? misnamedDatabase.failure
        (verify.exchanges .clear .drifted [misnamedDatabase]) :=
  ⟨(surfaces_of_sound Plan.builtIn .epoch Server.sound_drifted).1 _ _ _ (transcript_misnamed _ _),
    (surfaces_of_sound Plan.builtIn .epoch Server.sound_drifted).2 _ _ _ (transcript_misnamed _ _)⟩

/-- The failure of a look-up that no step guards does not become one of the taxonomy. -/
theorem lookup_failures_escape :
    ¬ ∀ (plan : Plan) (s t : Server) (now : Instant) (xs : List Exchange) (e : Failure),
      plan.spec.Valid → s.Sound →
        Program.Transcript .driver (plan.provision now) s xs (.error e) t →
          ∃ kind message step cause, e = .provision kind message step cause := by
  intro h
  obtain ⟨_, _, _, _, he⟩ := h Plan.builtIn .drifted _ .epoch _ misnamedDatabase.failure
    (by decide +kernel) Server.sound_drifted (transcript_misnamed _ _)
  cases he

end Bringup
