import Bringup.Proofs.Provision.RoleDocument
import Bringup.Proofs.Spec.Valid
import Mathlib.Data.List.Forall2
import Mathlib.Data.List.Perm.Subperm
import Mathlib.Logic.Function.Basic

/-!
# What becomes of the role documents

* `Plan.seeds` : the roles whose documents a run writes;
* `Plan.Present`, `Plan.Settled` : a document of a role is there, and it is as the plan wants it;
* `Plan.Revised` : documents that come from older ones by runs of the plan: the first document of a role
  may have been revised, and documents of the roles that had none may have been put at the end, in the
  order of the roles;
* `Plan.Revised.insert`, `Plan.Revised.update` : the two ways of writing keep to this.

The documents are described from the older ones at once and not write by write: that they were revised
twice, or in which order, leaves no trace but the time of the last revision.
-/

namespace Bringup

/-- The identity that a server gives out after `k` others. -/
def Server.issued (k : Nat) : Value := .str s!"id{k + 1}"

/-- A document as it is inserted for a role, with an identity that was given out after `n` others. -/
def Inserted (clock : Instant → Prop) (n : Nat) (r : RoleSeed) (d : Fields) : Prop :=
  ∃ k t, n ≤ k ∧ clock t ∧ d = ("_id", Server.issued k) :: r.document t

namespace Inserted

variable {clock : Instant → Prop} {n : Nat} {r q : RoleSeed} {d : Fields}

theorem fits_iff (h : Inserted clock n r d) : q.fits d = true ↔ r.code = q.code := by
  obtain ⟨k, t, -, -, rfl⟩ := h
  exact RoleSeed.fits_inserted

theorem not_differs (h : Inserted clock n r d) : r.differs d = false := by
  obtain ⟨k, t, -, -, rfl⟩ := h
  exact RoleSeed.differs_inserted

end Inserted

namespace Plan

variable (plan : Plan)

/-- The roles whose documents are written. -/
def seeds : List RoleSeed := if plan.skipSeed then [] else plan.spec.roles

/-- A document with the code of the role is stored. -/
def Present (documents : List Fields) (r : RoleSeed) : Prop := (documents.find? r.fits).isSome

/-- A document with the code of the role is stored, and under the policy that reconciles it is as the
seed has it. -/
def Settled (documents : List Fields) (r : RoleSeed) : Prop :=
  ∃ d, documents.find? r.fits = some d ∧ (plan.policy = .upsert → r.differs d = false)

/-- The role whose first document this is, if any. -/
def owner? (old : List Fields) (d : Fields) : Option RoleSeed :=
  plan.seeds.find? fun r => old.find? r.fits = some d

/-- A document after the revisions that were made at `times`, given for each code. -/
def revise (times : String → Option Instant) (old : List Fields) (d : Fields) : Fields :=
  match plan.owner? old d with
  | some r =>
    if plan.policy = .upsert ∧ r.differs d = true then
      match times r.code with
      | some t => r.revised t d
      | none => d
    else d
  | none => d

/-- The roles that have no document. -/
def missing (old : List Fields) : List RoleSeed :=
  plan.seeds.filter fun r => (old.find? r.fits).isNone

/-- The documents come from the older ones by runs of the plan at times of the clock. -/
def Revised (clock : Instant → Prop) (n : Nat) (old documents : List Fields) : Prop :=
  ∃ (times : String → Option Instant) (done : List RoleSeed) (new : List Fields),
    (∀ code t, times code = some t → clock t) ∧ done <+: plan.missing old ∧
      List.Forall₂ (Inserted clock n) done new ∧
      documents = old.map (plan.revise times old) ++ new

variable {plan} {clock : Instant → Prop} {n : Nat} {old documents : List Fields} {r q : RoleSeed}
  {d : Fields} {times : String → Option Instant}

theorem Settled.present (h : plan.Settled documents r) : Present documents r := by
  obtain ⟨d, hd, -⟩ := h
  rw [Present, hd]
  rfl

theorem Present.append {more : List Fields} (h : Present documents r) :
    Present (documents ++ more) r := by
  rw [Present, List.find?_append, Option.isSome_or, h, Bool.true_or]

theorem Settled.append {more : List Fields} (h : plan.Settled documents r) :
    plan.Settled (documents ++ more) r := by
  obtain ⟨d, hd, hset⟩ := h
  exact ⟨d, by rw [List.find?_append, hd]; rfl, hset⟩

theorem mem_roles_of_mem_seeds (h : r ∈ plan.seeds) : r ∈ plan.spec.roles := by
  unfold seeds at h
  split at h
  · cases h
  · exact h

/-- Seeds are told apart by their codes. -/
theorem seed_unique (hv : plan.spec.Valid) (hr : r ∈ plan.seeds) (hq : q ∈ plan.seeds)
    (h : r.code = q.code) : r = q :=
  hv.role_unique (mem_roles_of_mem_seeds hr) (mem_roles_of_mem_seeds hq) h

theorem seeds_nodup (hv : plan.spec.Valid) : plan.seeds.Nodup := by
  unfold seeds
  split
  · exact .nil
  · exact hv.roleCodes.of_map

/-! ### Revisions of stored documents -/

theorem owner?_eq_some_iff (hv : plan.spec.Valid) :
    plan.owner? old d = some r ↔ r ∈ plan.seeds ∧ old.find? r.fits = some d := by
  constructor
  · intro h
    exact ⟨List.mem_of_find?_eq_some h, by simpa using List.find?_some h⟩
  · rintro ⟨hr, hd⟩
    cases ho : plan.owner? old d with
    | none =>
      have := List.find?_eq_none.1 ho r hr
      simp [hd] at this
    | some q =>
      have hq : old.find? q.fits = some d := by simpa using List.find?_some ho
      rw [seed_unique hv (List.mem_of_find?_eq_some ho) hr
        (RoleSeed.code_eq_of_fits (List.find?_some hq) (List.find?_some hd))]

/-- Fields that no seed owns keep their values. -/
theorem lookup_revise {field : String} (hname : field ≠ "name")
    (hdescription : field ≠ "description") (hpermissions : field ≠ "permissions")
    (hupdated : field ≠ "updated_at") :
    (plan.revise times old d).lookup field = d.lookup field := by
  unfold revise
  split
  · split
    · split
      · exact RoleSeed.lookup_revised hname hdescription hpermissions hupdated
      · rfl
    · rfl
  · rfl

theorem fits_revise : q.fits (plan.revise times old d) = q.fits d := by
  have h : (plan.revise times old d).lookup "code" = d.lookup "code" :=
    lookup_revise (by decide) (by decide) (by decide) (by decide)
  rw [Bool.eq_iff_iff, RoleSeed.fits_iff, RoleSeed.fits_iff, h]

theorem find?_map_revise (docs : List Fields) :
    (docs.map (plan.revise times old)).find? q.fits =
      (docs.find? q.fits).map (plan.revise times old) := by
  rw [List.find?_map]
  congr 2
  funext d
  exact fits_revise

/-- What becomes of the first document of a seed. -/
theorem revise_of_find? (hv : plan.spec.Valid) (hr : r ∈ plan.seeds)
    (hd : old.find? r.fits = some d) : plan.revise times old d =
      if plan.policy = .upsert ∧ r.differs d = true then
        match times r.code with
        | some t => r.revised t d
        | none => d
      else d := by
  rw [revise, (owner?_eq_some_iff hv).2 ⟨hr, hd⟩]

/-- A revision at another code changes nothing here. -/
theorem revise_update_of_ne {code : String} {t : Option Instant}
    (h : ∀ q, plan.owner? old d = some q → q.code ≠ code) :
    plan.revise (Function.update times code t) old d = plan.revise times old d := by
  unfold revise
  cases ho : plan.owner? old d with
  | none => rfl
  | some q => simp only [Function.update_of_ne (h q ho)]

/-! ### Inserted documents -/

/-- Among the inserted documents a seed finds its own, which is as the seed has it. -/
theorem find?_inserted (hv : plan.spec.Valid) {done : List RoleSeed} {new : List Fields}
    (h : List.Forall₂ (Inserted clock n) done new) (hdone : ∀ r ∈ done, r ∈ plan.seeds)
    (hq : q ∈ plan.seeds) : q ∈ done ∧ (∃ d, new.find? q.fits = some d ∧ q.differs d = false) ∨
      q ∉ done ∧ new.find? q.fits = none := by
  induction h with
  | nil => exact .inr ⟨List.not_mem_nil, rfl⟩
  | @cons r d done new hd _ ih =>
    by_cases hcode : r.code = q.code
    · obtain rfl := seed_unique hv (hdone r List.mem_cons_self) hq hcode
      refine .inl ⟨List.mem_cons_self, d, ?_, hd.not_differs⟩
      exact List.find?_cons_of_pos (hd.fits_iff.2 rfl)
    · have hneg : ¬ q.fits d = true := fun hf => hcode (hd.fits_iff.1 hf)
      have hne : q ≠ r := fun h => hcode (congrArg RoleSeed.code h).symm
      rw [List.find?_cons_of_neg hneg]
      rcases ih fun p hp => hdone p (List.mem_cons_of_mem _ hp) with ⟨hm, hex⟩ | ⟨hm, hnone⟩
      · exact .inl ⟨List.mem_cons_of_mem _ hm, hex⟩
      · exact .inr ⟨by simp [hne, hm], hnone⟩

theorem mem_missing : r ∈ plan.missing old ↔ r ∈ plan.seeds ∧ old.find? r.fits = none := by
  simp [missing]

theorem mem_seeds_of_done {done : List RoleSeed} (h : done <+: plan.missing old) :
    ∀ r ∈ done, r ∈ plan.seeds :=
  fun _ hr => (mem_missing.1 (h.subset hr)).1

/-- No two roles that were inserted have the same code. -/
theorem codes_nodup_of_done (hv : plan.spec.Valid) {done : List RoleSeed}
    (h : done <+: plan.missing old) : (done.map RoleSeed.code).Nodup := by
  have hsub : List.Sublist done plan.spec.roles := by
    refine h.sublist.trans (List.filter_sublist.trans ?_)
    unfold seeds
    split
    · exact List.nil_sublist _
    · exact .refl _
  exact hv.roleCodes.sublist (hsub.map _)

/-! ### What a seed finds -/

/-- A seed that had a document finds what became of it. -/
theorem find?_revised_of_some {new : List Fields} (h : old.find? q.fits = some d) :
    (old.map (plan.revise times old) ++ new).find? q.fits = some (plan.revise times old d) := by
  rw [List.find?_append, find?_map_revise, h]
  rfl

/-- A seed that had none finds what was inserted. -/
theorem find?_revised_of_none {new : List Fields} (h : old.find? q.fits = none) :
    (old.map (plan.revise times old) ++ new).find? q.fits = new.find? q.fits := by
  rw [List.find?_append, find?_map_revise, h]
  rfl

/-- A seed that had no document finds one just when it was inserted, and then it is settled. -/
theorem find?_missing (times : String → Option Instant) (hv : plan.spec.Valid)
    {done : List RoleSeed} {new : List Fields} (hdone : done <+: plan.missing old)
    (hnew : List.Forall₂ (Inserted clock n) done new) (hq : q ∈ plan.missing old) :
    let documents := old.map (plan.revise times old) ++ new
    q ∈ done ∧ plan.Settled documents q ∨ q ∉ done ∧ documents.find? q.fits = none := by
  obtain ⟨hseed, hnone⟩ := mem_missing.1 hq
  rcases find?_inserted hv hnew (mem_seeds_of_done hdone) hseed with ⟨hm, e, he, hset⟩ | ⟨hm, he⟩
  · exact .inl ⟨hm, e, by rw [find?_revised_of_none hnone, he], fun _ => hset⟩
  · exact .inr ⟨hm, by rw [find?_revised_of_none hnone, he]⟩

/-- What was there before stays there. -/
theorem Revised.present (h : plan.Revised clock n old documents) (hq : Present old q) :
    Present documents q := by
  obtain ⟨times, done, new, -, -, -, rfl⟩ := h
  obtain ⟨d, hd⟩ := Option.isSome_iff_exists.1 hq
  rw [Present, find?_revised_of_some hd]
  rfl

/-- A document that a seed finds and that differs from it has been there from the beginning. -/
theorem Revised.find?_old (hv : plan.spec.Valid) (h : plan.Revised clock n old documents)
    (hq : q ∈ plan.seeds) (hd : documents.find? q.fits = some d) (hdiff : q.differs d = true)
    (hpolicy : plan.policy = .upsert) : old.find? q.fits = some d := by
  obtain ⟨times, done, new, -, hdone, hnew, rfl⟩ := h
  cases ho : old.find? q.fits with
  | none =>
    have hm : q ∈ plan.missing old := mem_missing.2 ⟨hq, ho⟩
    rcases find?_missing times hv hdone hnew hm with ⟨-, e, he, hset⟩ | ⟨-, he⟩
    · rw [hd] at he
      obtain rfl := Option.some.inj he
      simp [hset hpolicy] at hdiff
    · simp [hd] at he
  | some e =>
    rw [find?_revised_of_some ho, revise_of_find? hv hq ho] at hd
    obtain rfl := Option.some.inj hd
    split at hdiff
    · split at hdiff
      · simp [RoleSeed.differs_revised] at hdiff
      · simp_all
    · rename_i hcond
      simp only [hcond, ↓reduceIte]

/-- Each inserted document has the code of its role. -/
theorem countP_inserted {done : List RoleSeed} {new : List Fields}
    (h : List.Forall₂ (Inserted clock n) done new) :
    new.countP q.fits = (done.map RoleSeed.code).count q.code := by
  induction h with
  | nil => rfl
  | @cons r d done new hd _ ih =>
    rw [List.map_cons, List.countP_cons, List.count_cons, ih]
    congr 1
    by_cases hcode : r.code = q.code
    · rw [if_pos (hd.fits_iff.2 hcode), if_pos (beq_iff_eq.2 hcode)]
    · rw [if_neg (fun hf => hcode (hd.fits_iff.1 hf)), if_neg (fun hf => hcode (beq_iff_eq.1 hf))]

/-- No document is inserted for a code that was there. -/
theorem code_not_mem_of_present {done : List RoleSeed} (hdone : done <+: plan.missing old)
    (h : Present old q) : q.code ∉ done.map RoleSeed.code := by
  intro hmem
  obtain ⟨r, hr, hcode⟩ := List.mem_map.1 hmem
  obtain ⟨d, hd, hfits⟩ := List.find?_isSome.1 h
  rw [RoleSeed.fits_iff, ← hcode, ← RoleSeed.fits_iff] at hfits
  exact List.find?_eq_none.1 (mem_missing.1 (hdone.subset hr)).2 d hd hfits

/-- A code that was there has what became of its documents, and no others. -/
theorem filter_revised_of_present {done : List RoleSeed} {new : List Fields}
    (hdone : done <+: plan.missing old) (hnew : List.Forall₂ (Inserted clock n) done new)
    (h : Present old q) : (old.map (plan.revise times old) ++ new).filter q.fits =
      (old.filter q.fits).map (plan.revise times old) := by
  have hnone : new.filter q.fits = [] := by
    rw [← List.length_eq_zero_iff, ← List.countP_eq_length_filter, countP_inserted hnew]
    exact List.count_eq_zero.2 (code_not_mem_of_present hdone h)
  rw [List.filter_append, hnone, List.append_nil, List.filter_map]
  congr 2
  funext d
  exact fits_revise

/-- No code is inserted that was there, and none is inserted twice. -/
theorem Revised.countP_fits_le (hv : plan.spec.Valid) (h : plan.Revised clock n old documents)
    (q : RoleSeed) : documents.countP q.fits ≤ max 1 (old.countP q.fits) := by
  obtain ⟨times, done, new, -, hdone, hnew, rfl⟩ := h
  by_cases hp : Present old q
  · rw [List.countP_eq_length_filter, filter_revised_of_present hdone hnew hp, List.length_map,
      ← List.countP_eq_length_filter]
    omega
  · have hold : (old.map (plan.revise times old)).countP q.fits = 0 := by
      rw [List.countP_eq_zero]
      intro d hd hfits
      obtain ⟨e, he, rfl⟩ := List.mem_map.1 hd
      exact hp (List.find?_isSome.2 ⟨e, he, fits_revise ▸ hfits⟩)
    have hone := List.nodup_iff_count_le_one.1 (codes_nodup_of_done hv hdone) q.code
    rw [List.countP_append, hold, countP_inserted hnew]
    omega

/-- A code that was not there and is now has one document, which is as the seed has it. -/
theorem filter_revised_of_absent (hv : plan.spec.Valid) {done : List RoleSeed} {new : List Fields}
    (hdone : done <+: plan.missing old) (hnew : List.Forall₂ (Inserted clock n) done new)
    (hq : q ∈ plan.seeds) (hold : old.find? q.fits = none)
    (h : Present (old.map (plan.revise times old) ++ new) q) :
    ∃ d, (old.map (plan.revise times old) ++ new).filter q.fits = [d] ∧ q.differs d = false := by
  rw [Present, find?_revised_of_none hold] at h
  rcases find?_inserted hv hnew (mem_seeds_of_done hdone) hq with ⟨-, d, hd, hset⟩ | ⟨-, hnone⟩
  · refine ⟨d, ?_, hset⟩
    have hnil : (old.map (plan.revise times old)).filter q.fits = [] := by
      rw [List.filter_eq_nil_iff, ← List.find?_eq_none, find?_map_revise, hold]
      rfl
    have hone := List.nodup_iff_count_le_one.1 (codes_nodup_of_done hv hdone) q.code
    rw [← countP_inserted hnew, List.countP_eq_length_filter] at hone
    rw [List.filter_append, hnil, List.nil_append]
    -- the first of at most one is the only one
    rw [← List.head?_filter] at hd
    obtain ⟨more, hmore⟩ := List.head?_eq_some_iff.1 hd
    rw [hmore] at hone ⊢
    rw [List.length_cons] at hone
    rw [List.eq_nil_of_length_eq_zero (by omega : more.length = 0)]
  · rw [hnone] at h
    cases h

/-- A role that had no document and has one now is settled. -/
theorem Revised.settled_of_absent (hv : plan.spec.Valid) (h : plan.Revised clock n old documents)
    (hq : q ∈ plan.seeds) (hold : old.find? q.fits = none) (hp : Present documents q) :
    plan.Settled documents q := by
  obtain ⟨times, done, new, -, hdone, hnew, rfl⟩ := h
  rcases find?_missing times hv hdone hnew (mem_missing.2 ⟨hq, hold⟩) with ⟨-, hset⟩ | ⟨-, hnone⟩
  · exact hset
  · rw [Present, hnone] at hp
    cases hp

/-- A document that was there before is found by its identity. -/
theorem Revised.isSome_find?_identity (h : plan.Revised clock n old documents) (hd : d ∈ old)
    {v : Value} (hidentity : d.lookup "_id" = some v) (hself : v.equal v = true) :
    (documents.find? (matchesFilter [("_id", v)])).isSome := by
  obtain ⟨times, done, new, -, -, -, rfl⟩ := h
  refine List.find?_isSome.2 ⟨plan.revise times old d, ?_, ?_⟩
  · exact List.mem_append_left _ (List.mem_map_of_mem hd)
  · rw [matchesFilter_singleton, lookup_revise (by decide) (by decide) (by decide) (by decide)]
    exact ⟨v, hidentity, hself⟩

/-! ### The two ways of writing -/

/-- The part of a list before an item is its only prefix that has all items of this part, and not the
item itself. -/
theorem eq_of_prefix_cons {α : Type} {done before after : List α} {a : α}
    (h : done <+: before ++ a :: after) (hnodup : (before ++ a :: after).Nodup)
    (hall : ∀ b ∈ before, b ∈ done) (ha : a ∉ done) : done = before := by
  have hbefore : before.Nodup := (List.nodup_append.1 hnodup).1
  rcases List.prefix_or_prefix_of_prefix h (List.prefix_append before (a :: after)) with hd | hb
  -- a shorter prefix would lack an item
  · exact hd.eq_of_length_le (hbefore.subperm hall).length_le
  -- a longer one would have the next
  · obtain ⟨more, rfl⟩ := hb
    cases more with
    | nil => exact List.append_nil _
    | cons b more =>
      obtain ⟨rfl, -⟩ := List.cons_prefix_cons.1 ((List.prefix_append_right_inj before).1 h)
      exact absurd (by simp) ha

/-- Of the roles that had no document just those have one that were inserted. -/
theorem mem_done_iff_present (times : String → Option Instant) (hv : plan.spec.Valid)
    {done : List RoleSeed} {new : List Fields} (hdone : done <+: plan.missing old)
    (hnew : List.Forall₂ (Inserted clock n) done new) (hq : q ∈ plan.missing old) :
    q ∈ done ↔ Present (old.map (plan.revise times old) ++ new) q := by
  rcases find?_missing times hv hdone hnew hq with ⟨hm, hset⟩ | ⟨hm, hnone⟩
  · exact iff_of_true hm hset.present
  · rw [Present, hnone]
    exact iff_of_false hm Bool.false_ne_true

/-- A role that had no document stands among those that had none as it stands among the seeds. -/
theorem missing_of_split {before after : List RoleSeed} (hseeds : plan.seeds = before ++ q :: after)
    (hq : old.find? q.fits = none) : plan.missing old =
      before.filter (fun r => (old.find? r.fits).isNone) ++
        q :: after.filter fun r => (old.find? r.fits).isNone := by
  rw [missing, hseeds, List.filter_append, List.filter_cons_of_pos (by simp [hq])]

/-- A document for the next role that has none comes at the end. -/
theorem Revised.insert (hv : plan.spec.Valid) (h : plan.Revised clock n old documents)
    {before after : List RoleSeed} (hseeds : plan.seeds = before ++ q :: after)
    (hbefore : ∀ r ∈ before, Present documents r) (hq : documents.find? q.fits = none) {k : Nat}
    {t : Instant} (hk : n ≤ k) (ht : clock t) :
    plan.Revised clock n old (documents ++ [("_id", Server.issued k) :: q.document t]) := by
  obtain ⟨times, done, new, htimes, hdone, hnew, rfl⟩ := h
  have hqold : old.find? q.fits = none := by
    cases ho : old.find? q.fits with
    | none => rfl
    | some d => rw [find?_revised_of_some ho] at hq; cases hq
  have hmissing := missing_of_split hseeds hqold
  have hqdone : q ∉ done := by
    have hqmissing : q ∈ plan.missing old := by rw [hmissing]; simp
    rw [mem_done_iff_present times hv hdone hnew hqmissing, Present, hq]
    exact Bool.false_ne_true
  -- the roles before `q` that had no document have all been inserted, and nothing else has
  have hall : ∀ r ∈ before.filter fun r => (old.find? r.fits).isNone, r ∈ done := by
    intro r hr
    have hrmissing : r ∈ plan.missing old := by rw [hmissing]; exact List.mem_append_left _ hr
    exact (mem_done_iff_present times hv hdone hnew hrmissing).2 (hbefore r (List.mem_filter.1 hr).1)
  have hdone : done = before.filter fun r => (old.find? r.fits).isNone := by
    have hnodup : (plan.missing old).Nodup := (seeds_nodup hv).filter _
    rw [hmissing] at hdone hnodup
    exact eq_of_prefix_cons hdone hnodup hall hqdone
  refine ⟨times, done ++ [q], new ++ [("_id", Server.issued k) :: q.document t], htimes, ?_, ?_, ?_⟩
  · rw [hmissing, hdone]
    exact ⟨after.filter fun r => (old.find? r.fits).isNone, by simp⟩
  · exact List.rel_append hnew (.cons ⟨k, t, hk, ht, rfl⟩ .nil)
  · rw [List.append_assoc]

/-- The role whose document was inserted is settled. -/
theorem settled_insert (hq : documents.find? q.fits = none) {k : Nat} {t : Instant} :
    plan.Settled (documents ++ [("_id", Server.issued k) :: q.document t]) q := by
  refine ⟨("_id", Server.issued k) :: q.document t, ?_, fun _ => RoleSeed.differs_inserted⟩
  rw [List.find?_append, hq]
  exact List.find?_cons_of_pos (RoleSeed.fits_inserted.2 rfl)

/-- Changing the first document that a filter fits, when it fits one of the listed documents. -/
theorem updateFirst_map {filter : Fields} {change f g : Fields → Fields} {docs new : List Fields}
    (hnodup : docs.Nodup) (hd : d ∈ docs)
    (hfits : ∀ e ∈ docs, matchesFilter filter (f e) = true ↔ e = d)
    (hsame : ∀ e ∈ docs, e ≠ d → g e = f e) (hchange : g d = change (f d)) :
    updateFirst filter change (docs.map f ++ new) = docs.map g ++ new := by
  induction docs with
  | nil => cases hd
  | cons e docs ih =>
    rw [List.map_cons, List.cons_append, updateFirst]
    obtain ⟨he, hnodup⟩ := List.nodup_cons.1 hnodup
    by_cases hed : e = d
    · subst hed
      rw [if_pos ((hfits e List.mem_cons_self).2 rfl), List.map_cons, List.cons_append, hchange]
      congr 2
      refine List.map_congr_left fun x hx => (hsame x (List.mem_cons_of_mem _ hx) ?_).symm
      rintro rfl
      exact he hx
    · have hmem : d ∈ docs := by
        rcases List.mem_cons.1 hd with rfl | h
        · exact absurd rfl hed
        · exact h
      rw [if_neg (fun h => hed ((hfits e List.mem_cons_self).1 h)), List.map_cons, List.cons_append,
        hsame e List.mem_cons_self hed]
      congr 1
      exact ih hnodup hmem (fun x hx => hfits x (List.mem_cons_of_mem _ hx))
        fun x hx => hsame x (List.mem_cons_of_mem _ hx)

/-- The documents after a change of the one with an identity. -/
def changeIdentity (identity : Value) (r : RoleSeed) (t : Instant) (documents : List Fields) :
    List Fields :=
  updateFirst [("_id", identity)] (r.revised t) documents

/-- Among documents that come from older ones, the first of a role that differs from the seed is found by
its identity.  To change it is to revise it once more. -/
theorem changeIdentity_revised (hv : plan.spec.Valid) (hid : Identified old) (hq : q ∈ plan.seeds)
    (hpolicy : plan.policy = .upsert) (hd : old.find? q.fits = some d)
    (hdiff : q.differs d = true) {v : Value} (hidentity : d.lookup "_id" = some v) {t : Instant}
    {new : List Fields} : changeIdentity v q t (old.map (plan.revise times old) ++ new) =
      old.map (plan.revise (Function.update times q.code (some t)) old) ++ new := by
  have hmem : d ∈ old := List.mem_of_find?_eq_some hd
  refine updateFirst_map hid.nodup hmem (fun e he => ?_) (fun e _ hne => ?_) ?_
  · rw [← hid.matches_iff hmem he hidentity, matchesFilter_singleton, matchesFilter_singleton,
      lookup_revise (by decide) (by decide) (by decide) (by decide)]
  · refine revise_update_of_ne fun r hr hcode => ?_
    obtain ⟨hrs, hre⟩ := (owner?_eq_some_iff hv).1 hr
    obtain rfl := seed_unique hv hrs hq hcode
    exact hne (Option.some.inj (hre.symm.trans hd))
  · have hafter : plan.revise (Function.update times q.code (some t)) old d = q.revised t d := by
      rw [revise_of_find? hv hq hd, if_pos ⟨hpolicy, hdiff⟩, Function.update_self]
    rw [hafter, revise_of_find? hv hq hd, if_pos ⟨hpolicy, hdiff⟩]
    -- it may have been revised before, and then only the last time counts
    split
    · exact RoleSeed.revised_revised.symm
    · rfl

/-- A role finds what it found before when the document of another is revised. -/
theorem find?_revised_update (hv : plan.spec.Valid) (hr : r ∈ plan.seeds) (hq : q ∈ plan.seeds)
    (hne : r ≠ q) {t : Option Instant} {new : List Fields} :
    (old.map (plan.revise (Function.update times q.code t) old) ++ new).find? r.fits =
      (old.map (plan.revise times old) ++ new).find? r.fits := by
  cases ho : old.find? r.fits with
  | none => rw [find?_revised_of_none ho, find?_revised_of_none ho]
  | some e =>
    rw [find?_revised_of_some ho, find?_revised_of_some ho, revise_update_of_ne]
    intro p hp hcode
    obtain ⟨hps, hpe⟩ := (owner?_eq_some_iff hv).1 hp
    obtain rfl := seed_unique hv hps hq hcode
    exact hne (seed_unique hv hr hq
      (RoleSeed.code_eq_of_fits (List.find?_some ho) (List.find?_some hpe)))

/-- The first document of a role that differs from the seed may be revised, found by its identity. -/
theorem Revised.update (hv : plan.spec.Valid) (hid : Identified old)
    (h : plan.Revised clock n old documents) (hq : q ∈ plan.seeds)
    (hpolicy : plan.policy = .upsert) (hd : old.find? q.fits = some d)
    (hdiff : q.differs d = true) {v : Value} (hidentity : d.lookup "_id" = some v) {t : Instant}
    (ht : clock t) : plan.Revised clock n old (changeIdentity v q t documents) ∧
      plan.Settled (changeIdentity v q t documents) q ∧
      ∀ r ∈ plan.seeds, (Present documents r → Present (changeIdentity v q t documents) r) ∧
        (plan.Settled documents r → plan.Settled (changeIdentity v q t documents) r) := by
  obtain ⟨times, done, new, htimes, hdone, hnew, rfl⟩ := h
  rw [changeIdentity_revised hv hid hq hpolicy hd hdiff hidentity]
  have hsettled : plan.Settled
      (old.map (plan.revise (Function.update times q.code (some t)) old) ++ new) q := by
    refine ⟨_, find?_revised_of_some hd, fun _ => ?_⟩
    rw [revise_of_find? hv hq hd, if_pos ⟨hpolicy, hdiff⟩, Function.update_self]
    exact RoleSeed.differs_revised
  refine ⟨⟨_, done, new, ?_, hdone, hnew, rfl⟩, hsettled, fun r hr => ?_⟩
  · intro code u hu
    by_cases hc : code = q.code
    · subst hc
      rw [Function.update_self] at hu
      exact Option.some.inj hu ▸ ht
    · rw [Function.update_of_ne hc] at hu
      exact htimes code u hu
  · by_cases hrq : r = q
    · subst hrq
      exact ⟨fun _ => hsettled.present, fun _ => hsettled⟩
    · rw [Present, Present, Settled, Settled, find?_revised_update hv hr hq hrq]
      exact ⟨id, id⟩

end Plan

end Bringup
