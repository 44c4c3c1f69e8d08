import Bringup.Proofs.Program.Race
import Bringup.Proofs.Provision.Outline

/-!
# Two runs at once

* `Plan.provision_race` : whatever the order of their calls, two runs of a plan end as one run would, and
  the server agrees with that after one run.

Every step of a run looks first and acts then, and the other run can act in between.  What was seen is
put to use only where it stays true: what is there stays there, and what is missing may be made twice.
-/

namespace Bringup

namespace Undertaking

variable {U : Undertaking} {W : Weather}

/-- What other runs do does not take away from how a run ends. -/
theorem stable_ended :
    Program.Stable (U.setting W) (fun (_ : Report) t => U.Ended W t) (U.Failed W) := by
  intro r t u hothers hend
  cases r with
  | ok report =>
    obtain ⟨ht, hindexes, hcalm⟩ := hend
    obtain ⟨hu, hgrows⟩ := hothers ht
    exact ⟨hu, fun p hp => hgrows.indexes p hp (hindexes p hp), fun hc => (hcalm hc).mono hgrows⟩
  | error e =>
    obtain ⟨ht, hcalm⟩ := hend
    obtain ⟨hu, hgrows⟩ := hothers ht
    exact ⟨hu, fun hc => ⟨(hcalm hc).1.mono hgrows, (hcalm hc).2.mono hgrows⟩⟩

end Undertaking

namespace Plan

variable {plan : Plan} {s t : Server} {a b : Except Failure Report}

/-- **A race of two runs.**  Two runs of a plan at once: each fails just when one run alone fails, and with
the same failure; the server agrees with that after one run; and no user and no role code comes twice that
did not before. -/
theorem provision_race (hv : plan.spec.Valid) (hid : Identified (plan.roleDocuments s))
    {first second : Instant}
    (h : Program.Race (plan.provision first) (plan.provision second) s a b t) (now : Instant) :
    let once := (plan.provision now).run .clear s []
    (∀ e, a = .error e ↔ once.result = .error e) ∧ (∀ e, b = .error e ↔ once.result = .error e) ∧
      plan.Alike s.identities t once.server ∧ (s.users.Nodup → t.users.Nodup) ∧
      ∀ r ∈ plan.spec.roles, (plan.roleDocuments t).countP r.fits ≤
        max 1 ((plan.roleDocuments s).countP r.fits) := by
  intro once
  have hcalm := Weather.isCalm_calm
  obtain ⟨honce, hfinished⟩ := finished_provision hv hid now
  have hfit : (plan.undertaking s).Fit .calm := fit_of_calm hv hid hcalm
  -- each run takes the other for one of those who do what runs of the plan do
  have assures (time : Instant) : (plan.provision time).Assures ((plan.undertaking s).setting .calm)
      (fun _ t => (plan.undertaking s).Ended .calm t) ((plan.undertaking s).Failed .calm) s :=
    Undertaking.assures_provision (U := plan.undertaking s) hfit trivial Undertaking.reach_origin
  obtain ⟨ha, hb⟩ := (assures first).race (assures second) h rfl
    (fun _ => Undertaking.moves_refl) Undertaking.Moves.trans id Undertaking.stable_ended
    Undertaking.stable_ended
  obtain ⟨hreach, hfirst⟩ := Undertaking.finished_of_endsAs ha
  obtain ⟨-, hsecond⟩ := Undertaking.finished_of_endsAs hb
  have hfirst := hfirst hcalm
  have hsecond := hsecond hcalm
  refine ⟨hfirst.agree hfinished hv trivial hreach honce,
    hsecond.agree hfinished hv trivial hreach honce,
    hfirst.alike hfinished hv trivial hreach honce, fun hnodup => ?_,
    fun r _ => hreach.roles.countP_fits_le hv r⟩
  rcases hreach.users with heq | ⟨-, hnew, heq⟩ <;> rw [heq]
  · exact hnodup
  · exact List.nodup_append.2 ⟨hnodup, List.nodup_singleton _, fun u hu v hv => by
      rw [List.mem_singleton.1 hv]
      rintro rfl
      exact hnew hu⟩

theorem provision_race_builtIn :
    let both := (builtIn.provision .epoch).turns (builtIn.provision ⟨1, none⟩) .drifted
    let once := (builtIn.provision ⟨2, none⟩).run .clear .drifted []
    (∀ e, both.1 = .error e ↔ once.result = .error e) ∧
      (∀ e, both.2.1 = .error e ↔ once.result = .error e) ∧
      builtIn.Alike 0 both.2.2 once.server ∧
      (Server.drifted.users.Nodup → both.2.2.users.Nodup) ∧
      ∀ r ∈ builtIn.spec.roles, (builtIn.roleDocuments both.2.2).countP r.fits ≤
        max 1 ((builtIn.roleDocuments .drifted).countP r.fits) :=
  provision_race (by decide +kernel) (by decide +kernel)
    (Program.race_turns (builtIn.provision .epoch) (builtIn.provision ⟨1, none⟩) .drifted)
    ⟨2, none⟩

end Plan

end Bringup
