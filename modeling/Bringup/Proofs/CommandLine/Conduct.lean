import Bringup.CommandLine.Invocation
import Bringup.Proofs.Provision.Conduct

/-!
# What the stages of a command line ask and say

* `SeedSpec.within_verify`, `Options.within_work` : while a client is open, it is used and nothing else is
  done to it;
* `Settings.within_openClient`, `within_closeClient`, `Options.within_conclude` : the other stages print
  nothing, either.
-/

namespace Bringup

open Program (within_bind within_rescue within_perform within_each within_ofExcept within_say)

namespace SeedSpec

variable {spec : SeedSpec}

theorem within_inspectDatabase :
    spec.inspectDatabase.Within Remark.IsEntry Call.InSession := by
  have hcollection (existing : List String) (c : CollectionSpec) :
      (spec.verifyCollection existing c).Within Remark.IsEntry Call.InSession := by
    unfold verifyCollection
    split
    · exact within_bind (within_perform ⟨nofun, nofun⟩) fun _ =>
        within_bind (within_perform ⟨nofun, nofun⟩) fun _ =>
          within_bind (within_perform ⟨nofun, nofun⟩) fun _ => within_bind within_ofExcept fun _ => trivial
    · trivial
  have hroles (existing : List String) :
      (spec.verifyRoles existing).Within Remark.IsEntry Call.InSession := by
    unfold verifyRoles
    split
    · exact within_bind (within_perform ⟨nofun, nofun⟩) fun _ => within_bind
        (within_each fun r => within_bind (within_perform ⟨nofun, nofun⟩) fun _ => trivial)
        fun _ => trivial
    · trivial
  exact within_bind (within_perform ⟨nofun, nofun⟩) fun existing =>
    within_bind (within_each (hcollection existing)) fun _ =>
      within_bind (hroles existing) fun _ => trivial

theorem within_verify : spec.verify.Within Remark.IsEntry Call.InSession := by
  have hsay (entries : List Entry) :
      (Program.each Program.say entries).Within Remark.IsEntry Call.InSession :=
    within_each fun _ => within_say
  have habort (e : Failure) :
      (abortVerification e : Program Verification).Within Remark.IsEntry Call.InSession :=
    within_bind within_say fun _ => trivial
  exact within_bind (within_perform ⟨nofun, nofun⟩) fun _ =>
    within_bind (within_rescue within_inspectDatabase habort) fun _ =>
      within_bind (hsay _) fun _ => within_bind (hsay _) fun _ => trivial

end SeedSpec

namespace Options

variable {o : Options} {settings : Settings} {spec : SeedSpec} {now : Instant}

theorem within_check : (o.check spec).Within Remark.IsUnprinted Call.InSession := by
  unfold check
  split
  · refine within_bind (SeedSpec.within_verify.mono (fun _ h => h.isUnprinted) fun _ h => h)
      fun found => ?_
    split
    · trivial
    · exact ⟨trivial, trivial⟩
  · trivial

/-- The work on a database says nothing to the output, and uses the client that is open. -/
theorem within_work : (o.work settings spec now).Within Remark.IsUnprinted Call.InSession :=
  within_bind (Plan.within_provision.mono (fun _ h => h.isUnprinted) fun _ h => h) fun _ =>
    within_bind (within_say.mono (fun _ h => h.isUnprinted) fun _ h => h) fun _ => within_check

theorem within_conclude {e : Failure} {P : Call → Prop} :
    (conclude e).Within Remark.IsUnprinted P := by
  unfold conclude
  split
  · exact ⟨trivial, trivial⟩
  · exact ⟨trivial, trivial⟩
  · trivial

end Options

theorem within_closeClient : closeClient.Within Remark.IsEntry fun c => c = .close :=
  within_bind (within_perform rfl) fun _ => within_say

theorem Settings.within_openClient (settings : Settings) :
    settings.openClient.Within Remark.IsEntry fun _ => True := by
  have habort (e : Failure) :
      (abortConnect e : Program Unit).Within Remark.IsEntry fun _ => True :=
    within_bind within_say fun _ => trivial
  have hping : ping.Within Remark.IsEntry fun _ => True :=
    within_bind (within_perform trivial) fun _ => within_bind (within_perform trivial) fun _ => trivial
  have hopen : settings.openAnswering.Within Remark.IsEntry fun _ => True :=
    within_bind within_say fun _ => within_bind (within_rescue (within_perform trivial) habort)
      fun _ => within_rescue hping fun e => within_bind (within_perform trivial) fun _ => habort e
  exact within_bind hopen fun _ => within_say

end Bringup
