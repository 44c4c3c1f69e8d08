import Bringup.Proofs.Provision.Outline

/-!
# What a run leaves as it was

* `RoleSeed.Rewrites` : a document in which the fields of a seed and the time of the last change were
  replaced, and nothing else;
* `Plan.Retains` : documents that were there, in their order, some of them rewritten, and new ones after
  them;
* `Plan.Spares` : nothing that a server held is lost or changed, but for rewritten role documents;
* `Plan.provision_spares` : so it is after every run, whatever failed in it and whatever it did not see.

Every write of a run is confined to the first server by `Undertaking.Reach`; this module reads off it what
was there before.
-/

namespace Bringup

/-- The fields of the seed and the time of the last change are replaced, and all others are kept. -/
structure RoleSeed.Rewrites (r : RoleSeed) (now : Instant) (d d' : Fields) : Prop where
  name : d'.lookup "name" = some (.str r.name)
  description : d'.lookup "description" = some (.str r.description)
  permissions : d'.lookup "permissions" = some (.texts r.permissions)
  updated : d'.lookup "updated_at" = some (.date now)
  others : ∀ field, field ∉ ["name", "description", "permissions", "updated_at"] →
    d'.lookup field = d.lookup field

namespace Plan

variable (plan : Plan)

/-- A document is as it was, or it is the first one of a seed, and the policy reconciles it. -/
def KeptOrRewritten (now : Instant) (old : List Fields) (d d' : Fields) : Prop :=
  d' = d ∨ plan.policy = .upsert ∧
    ∃ r ∈ plan.seeds, old.find? r.fits = some d ∧ r.Rewrites now d d'

/-- The older documents are there in their order, each kept or rewritten.  After them come new ones: each
has the code of a seed that no older document had, and no two have the same. -/
def Retains (now : Instant) (old documents : List Fields) : Prop :=
  ∃ kept new, documents = kept ++ new ∧ List.Forall₂ (plan.KeptOrRewritten now old) old kept ∧
    (∀ d ∈ new, ∃ r ∈ plan.seeds, d.lookup "code" = some (.str r.code) ∧
      ∀ e ∈ old, e.lookup "code" ≠ some (.str r.code)) ∧
    (new.map fun d => d.lookup "code").Nodup

/-- What the first server held is still there on the second, as it was.  Only the role documents may have
been rewritten by a run at the time `now`. -/
structure Spares (now : Instant) (s t : Server) : Prop where
  users : s.users <+: t.users
  elsewhere : ∀ d, d ≠ plan.database → t.databases.lookup d = s.databases.lookup d
  collections : ∀ n, plan.Holds s n → plan.Holds t n
  indexes : ∀ n name info, (plan.view s n name).stored = some info →
    (plan.view t n name).stored = some info
  documents : ∀ n, n ≠ rolesCollection → t.documents plan.database n = s.documents plan.database n
  roles : plan.Retains now (plan.roleDocuments s) (plan.roleDocuments t)

variable {plan} {now : Instant} {s t : Server} {old documents : List Fields}

/-! ### Role documents -/

theorem rewrites_revised {r : RoleSeed} {d : Fields} : r.Rewrites now d (r.revised now d) := by
  have hsame : r.differs (r.revised now d) = false := RoleSeed.differs_revised
  obtain ⟨hname, hdescription, hpermissions⟩ := RoleSeed.differs_eq_false_iff.1 hsame
  refine ⟨hname, hdescription, hpermissions, Assoc.lookup_put_self, fun field hfield => ?_⟩
  simp only [List.mem_cons, List.not_mem_nil, or_false, not_or] at hfield
  obtain ⟨h₁, h₂, h₃, h₄⟩ := hfield
  exact RoleSeed.lookup_revised h₁ h₂ h₃ h₄

/-- What runs make of a document. -/
theorem keptOrRewritten_revise (hv : plan.spec.Valid) {times : String → Option Instant}
    (htimes : ∀ code t, times code = some t → t = now) (d : Fields) :
    plan.KeptOrRewritten now old d (plan.revise times old d) := by
  cases ho : plan.owner? old d with
  | none => exact .inl (by rw [revise, ho])
  | some r =>
    obtain ⟨hr, hd⟩ := (owner?_eq_some_iff hv).1 ho
    rw [revise_of_find? hv hr hd]
    split
    · rename_i hdrifted
      cases ht : times r.code with
      | none => exact .inl rfl
      | some u =>
        obtain rfl := htimes _ _ ht
        exact .inr ⟨hdrifted.1, r, hr, hd, rewrites_revised⟩
    · exact .inl rfl

/-- The codes of inserted documents are those of their roles. -/
theorem map_code_inserted {clock : Instant → Prop} {n : Nat} {done : List RoleSeed}
    {new : List Fields} (h : List.Forall₂ (Inserted clock n) done new) :
    new.map (fun d => d.lookup "code") = done.map fun r => some (.str r.code) := by
  induction h with
  | nil => rfl
  | cons hd _ ih => rw [List.map_cons, List.map_cons, ih, RoleSeed.fits_iff.1 (hd.fits_iff.2 rfl)]

/-- Documents that come from older ones by runs at one time retain them. -/
theorem Revised.retains (hv : plan.spec.Valid) {n : Nat}
    (h : plan.Revised (· = now) n old documents) : plan.Retains now old documents := by
  obtain ⟨times, done, new, htimes, hdone, hnew, rfl⟩ := h
  have hcodes := map_code_inserted hnew
  refine ⟨_, new, rfl, ?_, fun d hd => ?_, ?_⟩
  · rw [List.forall₂_map_right_iff, List.forall₂_same]
    exact fun d _ => keptOrRewritten_revise hv htimes d
  · have hcode : d.lookup "code" ∈ done.map fun r => some (Value.str r.code) :=
      hcodes ▸ List.mem_map_of_mem hd
    obtain ⟨r, hr, hrd⟩ := List.mem_map.1 hcode
    obtain ⟨hseed, hnone⟩ := mem_missing.1 (hdone.subset hr)
    refine ⟨r, hseed, hrd.symm, fun e he hfits => ?_⟩
    exact List.find?_eq_none.1 hnone e he (RoleSeed.fits_iff.2 hfits)
  · rw [hcodes]
    refine List.Nodup.map_on (fun r hr q hq hrq => ?_) (codes_nodup_of_done hv hdone).of_map
    exact List.inj_on_of_nodup_map (codes_nodup_of_done hv hdone) hr hq (by simpa using hrq)

/-! ### The server -/

/-- A server that runs at one time can reach has all that the first one had. -/
theorem spares_of_reach (hv : plan.spec.Valid) {steady : Prop}
    (h : Undertaking.Reach ⟨plan, (· = now), steady, s⟩ t) : plan.Spares now s t where
  users := by
    rcases h.users with heq | ⟨-, -, heq⟩
    · exact ⟨[], by rw [heq, List.append_nil]⟩
    · exact ⟨_, heq.symm⟩
  elsewhere := h.elsewhere
  collections := h.collections
  indexes := fun n name info hinfo => by
    rcases h.indexes n name with heq | ⟨i, rfl, hnew, -⟩
    · rw [heq]
      exact hinfo
    -- only an index that was not stored is made
    · rw [show (plan.view s n i.indexName).stored = none from hnew.stored] at hinfo
      cases hinfo
  documents := h.documents
  roles := h.roles.retains hv

/-- **What was there is spared.**  However a run ends, and whatever befell its calls, all that the server
held before it is still there: users, collections, stored indexes, other databases and other documents are
as they were.  The role documents are there in their order; of them only the first one of a seed may have
been rewritten, and new ones have codes that none had. -/
theorem provision_spares (hv : plan.spec.Valid) (hid : Identified (plan.roleDocuments s))
    {calls : List Call} {r : Except Failure Report}
    (h : Program.Course .any (plan.provision now) s calls r t) : plan.Spares now s t :=
  -- nothing is asked of an index that the server reports by itself, so the undertaking is not steady
  spares_of_reach hv (Undertaking.course_provision (U := ⟨plan, (· = now), False, s⟩)
    ⟨hv, hid, False.elim⟩ rfl Undertaking.reach_origin h).1

/-- The run revises one document, and is interrupted when it inserts another. -/
theorem provision_spares_builtIn :
    let faults := [⟨.updateOne, none, 1, 1, .ofRuntime .interrupt ""⟩]
    let run := (builtIn.provision .epoch).run ⟨["users"], false⟩ .drifted faults
    builtIn.Spares .epoch .drifted run.server :=
  provision_spares (by decide +kernel) (by decide +kernel)
    (Program.course_run trivial (builtIn.provision .epoch) .drifted _ fun _ _ _ => trivial)

end Plan

end Bringup
