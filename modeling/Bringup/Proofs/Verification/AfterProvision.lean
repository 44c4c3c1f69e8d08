import Bringup.Proofs.Provision.Outline
import Bringup.Proofs.Verification.Findings

/-!
# A verification after a run

* `Plan.leftover?` : the problem of a role that a run leaves as it was: its code was stored more than once,
  or it was stored once with other permissions and the policy does not reconcile it;
* `Plan.roleProblems_of_settled` : after a run a role has that problem or none;
* `Plan.verify_after_provision` : so a verification of what a run with a report leaves finds these
  problems and no others.

Collections and indexes have no problem at all: what the run did not make it has compared, and it would
have ended without a report at an index that is not as it is declared.
-/

namespace Bringup

namespace Plan

/-- The problem of a role that a run leaves as it was, given the role documents before the run. -/
def leftover? (plan : Plan) (old : List Fields) (r : RoleSeed) : Option String :=
  match old.filter r.fits with
  | [] => none
  | [d] =>
    if plan.policy = .skip ∧ d.lookup "permissions" ≠ some (.texts r.permissions) then
      let stored := (d.lookup "permissions").getD .null
      some (s!"Seed role '{r.code}' has permissions {stored.display}, expected "
        ++ (Value.texts r.permissions).display)
    else none
  | documents => some s!"Seed role '{r.code}' is stored {documents.length} times"

variable {plan : Plan} {s t : Server} {now : Instant} {clock : Instant → Prop} {n : Nat}
  {old documents : List Fields} {r : RoleSeed}

theorem leftover?_of_absent (h : old.find? r.fits = none) : plan.leftover? old r = none := by
  rw [leftover?, List.filter_eq_nil_iff.2 (List.find?_eq_none.1 h)]

/-- Under the policy that reconciles, only codes that were stored more than once keep a problem. -/
theorem leftover?_of_upsert (hpolicy : plan.policy = .upsert) (h : old.countP r.fits ≤ 1) :
    plan.leftover? old r = none := by
  rw [List.countP_eq_length_filter] at h
  unfold leftover?
  match hfilter : old.filter r.fits with
  | [] => rfl
  | [d] => simp [hpolicy]
  | d :: e :: more =>
    rw [hfilter, List.length_cons, List.length_cons] at h
    omega

/-- A single document of a role has the problem that it had before, or none. -/
theorem roleProblems_revise (hv : plan.spec.Valid) (hr : r ∈ plan.seeds) {d : Fields}
    (hold : old.filter r.fits = [d]) {times : String → Option Instant}
    (hset : plan.policy = .upsert → r.differs (plan.revise times old d) = false) :
    SeedSpec.roleProblems r [plan.revise times old d] = (plan.leftover? old r).toList := by
  have hfirst : old.find? r.fits = some d := by rw [← List.head?_filter, hold]; rfl
  -- under the policy that reconciles the document agrees with the seed, and else it is as it was
  cases hpolicy : plan.policy with
  | upsert =>
    obtain ⟨-, -, hpermissions⟩ := RoleSeed.differs_eq_false_iff.1 (hset hpolicy)
    rw [SeedSpec.roleProblems_eq_nil_iff.2 ⟨_, rfl, hpermissions⟩, leftover?, hold]
    simp [hpolicy]
  | skip =>
    have hsame : plan.revise times old d = d := by
      rw [revise_of_find? hv hr hfirst, if_neg (by simp [hpolicy])]
    rw [hsame]
    by_cases hpermissions : d.lookup "permissions" = some (.texts r.permissions)
    · rw [SeedSpec.roleProblems_eq_nil_iff.2 ⟨_, rfl, hpermissions⟩, leftover?, hold]
      simp [hpermissions]
    · have hdiffer : ¬ ((d.lookup "permissions").getD .null).equal (.texts r.permissions) = true := by
        rw [Value.equal_texts_iff]
        intro heq
        cases hl : d.lookup "permissions" with
        | none => simp [hl, Value.texts] at heq
        | some v => exact hpermissions (by rw [hl] at heq ⊢; exact congrArg some heq)
      rw [leftover?, hold]
      simp only [SeedSpec.roleProblems, hdiffer, hpolicy, hpermissions, ne_eq, not_false_eq_true,
        and_self, ↓reduceIte, Bool.false_eq_true]
      rfl

/-- Once a role is settled, its documents have the problem that the run leaves, or none. -/
theorem roleProblems_of_settled (hv : plan.spec.Valid) (h : plan.Revised clock n old documents)
    (hr : r ∈ plan.seeds) (hset : plan.Settled documents r) :
    SeedSpec.roleProblems r (documents.filter r.fits) = (plan.leftover? old r).toList := by
  obtain ⟨times, done, new, -, hdone, hnew, rfl⟩ := h
  -- a role that had no document has the new one alone, and else those that it had before
  cases hold : old.find? r.fits with
  | none =>
    obtain ⟨d, hd, hdiffers⟩ := filter_revised_of_absent hv hdone hnew hr hold hset.present
    obtain ⟨-, -, hpermissions⟩ := RoleSeed.differs_eq_false_iff.1 hdiffers
    rw [leftover?_of_absent hold, SeedSpec.roleProblems_eq_nil_iff.2 ⟨d, hd, hpermissions⟩]
    rfl
  | some d =>
    rw [filter_revised_of_present hdone hnew (by rw [Present, hold]; rfl)]
    have hhead : (old.filter r.fits).head? = some d := List.head?_filter.trans hold
    cases hfilter : old.filter r.fits with
    | nil => simp [hfilter] at hhead
    | cons e more =>
      obtain rfl : e = d := by simpa [hfilter] using hhead
      cases more with
      | nil =>
        refine roleProblems_revise hv hr hfilter fun hpolicy => ?_
        obtain ⟨f, hf, hdiffers⟩ := hset
        rw [find?_revised_of_some hold] at hf
        obtain rfl := Option.some.inj hf
        exact hdiffers hpolicy
      | cons f more =>
        rw [leftover?, hfilter]
        simp [SeedSpec.roleProblems]

/-- At a server where everything of the plan is there, no collection has a problem. -/
theorem Complete.problemsAt (h : plan.Complete s) {c : CollectionSpec}
    (hc : c ∈ plan.spec.collections) : plan.spec.problemsAt s c = .ok [] := by
  have hthere : (s.collection? plan.spec.database c.name).isSome :=
    h.collections _ (List.mem_map_of_mem hc)
  rw [SeedSpec.problemsAt, if_pos hthere]
  refine SeedSpec.indexProblems_of_matches fun i hi => ?_
  obtain ⟨-, info, hinfo, hmatch⟩ := h.indexes (c.name, i) (SeedSpec.mem_places.2 ⟨c, hc, rfl, hi⟩)
  exact ⟨info, (Server.lookup_indexInformation hthere).trans hinfo, hmatch⟩

/-- The roles have the problems that the run leaves. -/
theorem Complete.roleProblemsAt (h : plan.Complete t) (hv : plan.spec.Valid)
    (hskip : plan.skipSeed = false)
    (hroles : plan.Revised clock n (plan.roleDocuments s) (plan.roleDocuments t)) :
    plan.spec.roleProblemsAt t = plan.spec.roles.filterMap (plan.leftover? (plan.roleDocuments s)) := by
  have hseeds : plan.seeds = plan.spec.roles := by simp [seeds, hskip]
  have hall : (plan.spec.roles.flatMap fun r =>
      SeedSpec.roleProblems r ((plan.roleDocuments t).filter r.fits)) =
      plan.spec.roles.filterMap (plan.leftover? (plan.roleDocuments s)) := by
    rw [List.filterMap_eq_flatMap_toList]
    refine List.flatMap_congr fun r hr => ?_
    have hseed : r ∈ plan.seeds := hseeds ▸ hr
    exact roleProblems_of_settled hv hroles hseed (h.roles r hseed)
  unfold SeedSpec.roleProblemsAt
  split
  · exact hall
  -- the collection is there unless there are no roles
  · rename_i hnone
    have hempty : plan.spec.roles = [] := by
      by_contra hne
      exact hnone (h.collections _ (hv.rolesDeclared hne))
    rw [hempty]
    rfl

/-- **Verification after a run.**  A run that nothing disturbs, with the step of the role documents, ends
with a report.  Then a verification with the same specification returns, and its problems are those that the
run leaves: one for each role, in their order, whose code was stored more than once before, and under the
policy that skips also for each role whose code was stored once with other permissions.  So it is content
under the policy that reconciles when no code was stored more than once. -/
theorem verify_after_provision (hv : plan.spec.Valid) (hid : Identified (plan.roleDocuments s))
    (hskip : plan.skipSeed = false)
    (h : ((plan.provision now).run .clear s []).result.isOk = true) :
    let t := ((plan.provision now).run .clear s []).server
    ∃ found, (plan.spec.verify.run .clear t []).result = .ok found ∧
      found.problems = plan.spec.roles.filterMap (plan.leftover? (plan.roleDocuments s)) ∧
      (plan.policy = .upsert → (∀ r ∈ plan.spec.roles, (plan.roleDocuments s).countP r.fits ≤ 1) →
        found.ok = true) := by
  intro t
  obtain ⟨hreach, hfinished⟩ := finished_provision hv hid now
  have hcomplete : plan.Complete t := by
    cases hr : ((plan.provision now).run .clear s []).result with
    | ok report =>
      rw [hr] at hfinished
      exact hfinished
    | error e =>
      rw [hr] at h
      cases h
  let none (_ : CollectionSpec) : List String := []
  have hnone : ∀ c ∈ plan.spec.collections, plan.spec.problemsAt t c = .ok (none c) :=
    fun c hc => hcomplete.problemsAt hc
  obtain ⟨⟨found, hresult, rfl⟩, -, -⟩ := (SeedSpec.reads_verify hnone).run
  have hproblems : (plan.spec.found t none).problems =
      plan.spec.roles.filterMap (plan.leftover? (plan.roleDocuments s)) := by
    have hempty : plan.spec.collections.flatMap none = [] := by simp [none]
    rw [SeedSpec.found, hempty, List.nil_append]
    exact hcomplete.roleProblemsAt hv hskip hreach.roles
  refine ⟨_, hresult, hproblems, fun hpolicy honce => ?_⟩
  rw [Verification.ok, hproblems, List.isEmpty_iff, List.filterMap_eq_nil_iff]
  exact fun r hr => leftover?_of_upsert hpolicy (honce r hr)

theorem verify_after_provision_skip :
    let plan : Plan := { builtIn with policy := .skip }
    let t := ((plan.provision .epoch).run .clear .drifted []).server
    ∃ found, (plan.spec.verify.run .clear t []).result = .ok found ∧
      found.problems = plan.spec.roles.filterMap (plan.leftover? (plan.roleDocuments .drifted)) ∧
      (plan.policy = .upsert →
        (∀ r ∈ plan.spec.roles, (plan.roleDocuments .drifted).countP r.fits ≤ 1) → found.ok = true) :=
  verify_after_provision (by decide +kernel) (by decide +kernel) (by decide +kernel)
    (by decide +kernel)

end Plan

end Bringup
