import Bringup.Proofs.Provision.Outline
import Mathlib.Logic.Relation

/-!
# Runs after failures

* `Plan.Attempt` : a run in which any call may have failed and any reading may have been stale;
* `Plan.reach_of_attempts` : however many attempts there were, the server is one that runs can reach;
* `Plan.provision_converges` : a run that nothing disturbs then ends like one on the first server.

No attempt is undone.  That it can be repeated rests on what is stored and not on what the attempt said
of itself: a failure that was taken for a sign that something is there leaves no trace.
-/

namespace Bringup

namespace Plan

/-- A run of the plan in which any call may have failed in any way, and any reading may have been
stale. -/
def Attempt (plan : Plan) (s t : Server) : Prop :=
  ∃ now calls r, Program.Course .any (plan.provision now) s calls r t

/-- The creation of a collection is refused as if the collection were there. -/
def refusedCollection : Fault :=
  ⟨.createCollection, none, 0, 1, .ofDriver .operation "ns exists" (some 48) none none⟩

variable {plan : Plan} {s t : Server}

/-- Every run under faults is such an attempt. -/
theorem attempt_run (now : Instant) (sight : Sight) (s : Server) (faults : List Fault) :
    plan.Attempt s ((plan.provision now).run sight s faults).server :=
  ⟨now, _, _, Program.course_run trivial _ s faults fun _ _ _ => trivial⟩

/-- Attempts stay among the servers that runs of the plan can reach. -/
theorem reach_of_attempts (hv : plan.spec.Valid) (hspares : plan.spec.SparesIdentity)
    (hid : Identified (plan.roleDocuments s)) (h : Relation.ReflTransGen plan.Attempt s t) :
    (plan.undertaking s).Reach t := by
  induction h with
  | refl => exact Undertaking.reach_origin
  -- the next attempt starts at a server that can be reached, whatever became of those before
  | tail _ hattempt ih =>
    obtain ⟨now, calls, r, hcourse⟩ := hattempt
    exact (Undertaking.course_provision (U := plan.undertaking s) ⟨hv, hid, fun _ => .inr hspares⟩
      trivial ih hcourse).1

/-- **Convergence.**  After any attempts, a run that nothing disturbs fails just when one on the first
server fails, and with the same failure; and the servers after the two agree. -/
theorem provision_converges (hv : plan.spec.Valid) (hspares : plan.spec.SparesIdentity)
    (hid : Identified (plan.roleDocuments s)) (h : Relation.ReflTransGen plan.Attempt s t)
    (now later : Instant) :
    let once := (plan.provision now).run .clear s []
    let again := (plan.provision later).run .clear t []
    (∀ e, again.result = .error e ↔ once.result = .error e) ∧
      plan.Alike s.identities again.server once.server := by
  intro once again
  obtain ⟨honce, hfinished⟩ := finished_provision hv hid now
  obtain ⟨hagain, hfinished'⟩ := Undertaking.course_provision (U := plan.undertaking s)
    (fit_of_calm hv hid Weather.isCalm_calm) trivial (reach_of_attempts hv hspares hid h)
    (Program.course_run_calm (plan.provision later) t)
  have hfinished' := hfinished' Weather.isCalm_calm
  exact ⟨hfinished'.agree hfinished hv trivial hagain honce,
    hfinished'.alike hfinished hv trivial hagain honce⟩

theorem provision_converges_builtIn :
    let t := ((builtIn.provision .epoch).run ⟨["users"], true⟩ .drifted [refusedCollection]).server
    let once := (builtIn.provision .epoch).run .clear .drifted []
    let again := (builtIn.provision ⟨1, none⟩).run .clear t []
    (∀ e, again.result = .error e ↔ once.result = .error e) ∧
      builtIn.Alike 0 again.server once.server :=
  provision_converges (by decide +kernel) (by decide +kernel) (by decide +kernel)
    (.single (attempt_run .epoch ⟨["users"], true⟩ .drifted [refusedCollection])) .epoch ⟨1, none⟩

/-! ### The index on the identity -/

/-- A plan that declares another index under the name of the one on the identity. -/
def claimsIdentity : Plan where
  spec := ⟨"app", ⟨"service", "secret", "readWrite", "app"⟩,
    [⟨"users", [⟨[("email", .ascending)], false, false, some "_id_"⟩]⟩], []⟩
  policy := .upsert
  skipPrincipal := true
  skipSeed := false

/-- An index of the name `_id_` is refused for a collection that is there, but it can be made before the
collection is: after the attempt the run succeeds that failed on the first server. -/
theorem not_converges_of_claimed_identity :
    ¬ ∀ (plan : Plan) (s t : Server) (now later : Instant), plan.spec.Valid →
      Identified (plan.roleDocuments s) → Relation.ReflTransGen plan.Attempt s t →
        ∀ e, ((plan.provision later).run .clear t []).result = .error e ↔
          ((plan.provision now).run .clear s []).result = .error e := by
  intro h
  have key := h claimsIdentity .empty _ .epoch .epoch (by decide +kernel) (by decide +kernel)
    (.single (attempt_run .epoch .clear .empty [refusedCollection]))
  have honce : ((claimsIdentity.provision .epoch).run .clear .empty []).result.isOk = false := by
    decide +kernel
  have hagain : ((claimsIdentity.provision .epoch).run .clear
      ((claimsIdentity.provision .epoch).run .clear .empty [refusedCollection]).server
      []).result.isOk = true := by decide +kernel
  -- the failure of the first run would have to be the result of the second
  cases hr : ((claimsIdentity.provision .epoch).run .clear .empty []).result with
  | ok report => rw [hr] at honce; cases honce
  | error e => rw [(key e).2 hr] at hagain; cases hagain

end Plan

end Bringup
