import Bringup.Proofs.Program.Agreement
import Bringup.Proofs.Provision.Conduct
import Bringup.Proofs.Provision.Groundwork
import Bringup.Proofs.Provision.Seeding

/-!
# Stale reads are harmless

* `Plan.under` : the plan with another policy;
* `Report.underSkip` : the report of the same work by the policy that skips;
* `Plan.agree_provision` : the run of a blind reader that reconciles and that of a clear-sighted one that
  skips, side by side;
* `Plan.Adds` : documents are put after those that were there, one at most for a role that had none;
* `Plan.provision_stale_reads` : both runs come to the same, add documents only, and fail at an index only.

A blind reader takes every role for a missing one.  It inserts the document if it is absent, as the other one
does, and only what is recorded of a document that was there is another thing.  A collection that the listing
hid is refused, and so it is skipped like one that was listed.
-/

namespace Bringup

/-- What is recorded of the same work by the policy that skips: a seed that was unchanged is skipped. -/
def Outcome.underSkip (o : Outcome) : Outcome :=
  if o.step = .seed ∧ o.action = .unchanged then { o with action := .skipped } else o

/-- The report of the same work by the policy that skips. -/
def Report.underSkip (r : Report) : Report :=
  { r with policy := SeedPolicy.skip.name, outcomes := r.outcomes.map Outcome.underSkip }

theorem Outcome.underSkip_of_step {o : Outcome} (h : o.step ≠ .seed) : o.underSkip = o :=
  if_neg fun hboth => h hboth.1

/-- No answer but that to a listing, or to a question for one document, depends on what the reader sees. -/
theorem Server.answer_sight {s : Server} {c : Call} (v w : Sight)
    (h : c.kind ∉ [.listCollections, .findOne]) : s.answer v c = s.answer w c := by
  cases c with
  | listCollections => exact absurd (List.mem_cons_self ..) h
  | findOne => exact absurd (List.mem_cons_of_mem _ List.mem_cons_self) h
  | _ => rfl

namespace Program

variable {α : Type} {v w : Sight} {p : Program α} {s : Server}

/-- A program that asks for no listing and for no single document runs alike for all readers. -/
theorem agree_sights (h : p.CallsIn fun c => c.kind ∉ [.listCollections, .findOne]) :
    p.Agree v w (fun a b s t => b = a ∧ t = s) SameEnd p s s := by
  refine agree_self (M := fun s t => t = s) h (fun c s t hc hst => ?_) rfl
  obtain rfl : t = s := hst
  rw [Server.answer_sight v w hc]
  exact ⟨rfl, rfl⟩

end Program

namespace Plan

/-- The plan with another policy. -/
def under (plan : Plan) (policy : SeedPolicy) : Plan := { plan with policy }

variable {plan plan' : Plan} {now : Instant} {hidden : List String} {v w : Sight} {s t : Server}

/-- The outcomes are the same but for the policy, and so are the servers. -/
def SameOutcomes (os os' : List Outcome) (s t : Server) : Prop := t = s ∧ os.map Outcome.underSkip = os'

theorem sameOutcomes_of_steps {os : List Outcome} (h : ∀ o ∈ os, o.step ≠ .seed) :
    SameOutcomes os os s s :=
  ⟨rfl, (List.map_congr_left fun o ho => Outcome.underSkip_of_step (h o ho)).trans (List.map_id os)⟩

/-- A loop over the same items whose outcomes are the same one by one. -/
theorem sameOutcomes_of_forall₂ {os os' : List Outcome} (hst : t = s)
    (h : List.Forall₂ (fun o o' => o.underSkip = o') os os') : SameOutcomes os os' s t := by
  refine ⟨hst, ?_⟩
  rwa [← List.forall₂_map_left_iff, List.forall₂_eq_eq_eq] at h

/-! ### The steps -/

theorem agree_guarded {α β : Type} {p : Program α} {q : Program β} {R : α → β → Server → Server → Prop}
    {step : Step} (h : p.Agree v w R Program.SameEnd q s t) :
    (plan.guarded step p).Agree v w R Program.SameEnd (plan'.guarded step q) s t := by
  refine Program.agree_rescue (h.mono (fun _ _ _ _ h => h) fun e e' s t he => ?_)
  obtain ⟨rfl, rfl⟩ := he
  refine ⟨rfl, ?_⟩
  split
  · exact ⟨rfl, rfl⟩
  · exact ⟨rfl, rfl⟩

/-- A step of this kind that asks nothing of which a reader may fail to see something. -/
theorem agree_step {kinds : List CallKind} {step : Step} {p : Program (List Outcome)}
    {bad : Failure → Server → Prop} (hp : p.Within Remark.IsEntry fun c => c.kind ∈ kinds)
    (hkinds : ∀ kind ∈ kinds, kind ∉ [CallKind.listCollections, .findOne])
    (hsteps : p.Assures (.alone (.faultless v)) (fun os _ => ∀ o ∈ os, o.step = step) bad s)
    (hstep : step ≠ .seed) :
    p.Agree v w SameOutcomes Program.SameEnd p s s := by
  have hsights : p.Agree v w (fun os os' s t => os' = os ∧ t = s) Program.SameEnd p s s :=
    Program.agree_sights (hp.callsIn.mono fun c hc => hkinds _ hc)
  refine (hsights.and_left hsteps).mono (fun os os' s t hos => ?_) fun _ _ _ _ he => he.1
  obtain ⟨⟨rfl, rfl⟩, hsteps⟩ := hos
  exact sameOutcomes_of_steps fun o ho => hsteps o ho ▸ hstep

theorem agree_principalStep : (plan.under .upsert).principalStep.Agree v w SameOutcomes Program.SameEnd
    (plan.under .skip).principalStep s s := by
  have hsteps : (plan.under .upsert).principalStep.Assures (.alone (.faultless v))
      (fun os _ => ∀ o ∈ os, o.step = .principal) (fun _ _ => True) s := ?_
  · exact agree_step within_principalStep (by decide) hsteps nofun
  unfold principalStep
  split
  · exact Program.assures_bind (Program.assures_say (Program.assures_done nofun))
  refine Program.assures_bind (Program.assures_bind ((Program.assures_anything _ s).mono
    (fun action t _ => ?_) fun _ _ h => h))
  refine Program.assures_bind (Program.assures_say (Program.assures_done (Program.assures_done ?_)))
  rintro o ho
  rw [List.mem_singleton.1 ho]

/-- A collection that is hidden is refused when it is created, and so nothing depends on the listing. -/
theorem agree_ensureCollections : (plan.under .upsert).ensureCollections.Agree v w SameOutcomes
    Program.SameEnd (plan.under .skip).ensureCollections s s := by
  let inv (existing existing' : List String) (s t : Server) : Prop :=
    t = s ∧ (∀ m ∈ existing, plan.Holds s m) ∧ ∀ m ∈ existing', plan.Holds s m
  have hlisting : ((plan.under .upsert).guarded .collections (Program.perform (.listCollections
      plan.database))).Agree v w (fun (existing existing' : List String) s t => inv existing existing' s t)
      Program.SameEnd ((plan.under .skip).guarded .collections (Program.perform (.listCollections
      plan.database))) s s := by
    refine Program.agree_of_values assures_listing assures_listing ?_
    rintro existing existing' _ _ ⟨rfl, h⟩ ⟨rfl, h'⟩
    exact ⟨rfl, h, h'⟩
  refine Program.agree_bind hlisting fun (existing existing' : List String) s t hst => ?_
  have hloop : (Program.each ((plan.under .upsert).ensureCollection existing) plan.spec.collectionNames).Agree
      v w (fun os os' s t => inv existing existing' s t ∧ List.Forall₂ (fun o o' => o.underSkip = o') os os')
      Program.SameEnd
      (Program.each ((plan.under .skip).ensureCollection existing') plan.spec.collectionNames) s t :=
    Program.agree_each (fun n _ s t hst => ?_) hst
  · exact hloop.mono (fun os os' s t h => sameOutcomes_of_forall₂ h.1.1 h.2) fun _ _ _ _ he => he
  obtain ⟨rfl, h, h'⟩ := hst
  refine Program.agree_of_values (ensureCollection_makes h) (ensureCollection_makes h') ?_
  rintro _ _ u _ ⟨rfl, hu⟩ ⟨rfl, rfl⟩
  -- what the two readers have seen stays there while the loops go on
  have hkeeps (m : String) (hm : plan.Holds t m) : plan.Holds u m := by
    rw [hu]
    split
    · exact hm
    · exact holds_put (k := t.identities) hm
  exact ⟨⟨hu.symm, fun m hm => hkeeps m (h m hm), fun m hm => hkeeps m (h' m hm)⟩,
    Outcome.underSkip_of_step nofun⟩

theorem agree_ensureIndexes (hv : plan.spec.Valid)
    (hholds : ∀ c ∈ plan.spec.collections, plan.Holds s c.name) :
    (plan.under .upsert).ensureIndexes.Agree v w SameOutcomes Program.SameEnd
      (plan.under .skip).ensureIndexes s s := by
  have hsteps : (plan.under .upsert).ensureIndexes.Assures (.alone (.faultless v))
      (fun os _ => ∀ o ∈ os, o.step = .indexes) (plan.Stuck s) s := ?_
  · exact agree_step within_ensureIndexes (by decide) hsteps nofun
  refine (ensureIndexes_builds hv hholds).mono (fun os t hos o ho => ?_) fun _ _ he => he
  rw [hos.outcomes] at ho
  obtain ⟨p, -, rfl⟩ := List.mem_map.1 ho
  rfl

/-- A blind reader finds no document and inserts one if it is absent, as one does that skips. -/
theorem agree_writeRole (r : RoleSeed) : ((plan.under .upsert).writeRole r now).Agree ⟨hidden, true⟩ w
    (fun a b s t => t = s ∧ (⟨.seed, r.code, a⟩ : Outcome).underSkip = ⟨.seed, r.code, b⟩) Program.SameEnd
    ((plan.under .skip).writeRole r now) s s := by
  refine Program.agree_answered_left (Server.answer_findOne rfl) ?_
  have hinsert : (Program.perform (.insertIfAbsent plan.database rolesCollection (codeFilter r)
      (r.document now))).Agree ⟨hidden, true⟩ w (fun a b s t => b = a ∧ t = s) Program.SameEnd
      (Program.perform (.insertIfAbsent plan.database rolesCollection (codeFilter r) (r.document now)))
      s s := Program.agree_sights (Program.callsIn_perform
        (show CallKind.updateOne ∉ [.listCollections, .findOne] by decide))
  refine Program.agree_bind hinsert fun _ inserted s t hst => ?_
  obtain ⟨rfl, rfl⟩ := hst
  cases inserted with
  | none => exact ⟨rfl, rfl⟩
  | some identity => exact ⟨rfl, rfl⟩

theorem agree_seedStep : ((plan.under .upsert).seedStep now).Agree ⟨hidden, true⟩ w SameOutcomes
    Program.SameEnd ((plan.under .skip).seedStep now) s s := by
  unfold seedStep
  change Program.Agree _ _ _ _ (if plan.skipSeed then _ else _) (if plan.skipSeed then _ else _) _ _
  by_cases hskip : plan.skipSeed = true
  · rw [if_pos hskip, if_pos hskip]
    exact ⟨rfl, rfl⟩
  rw [if_neg hskip, if_neg hskip]
  unfold seedRoles
  change Program.Agree _ _ _ _ (if plan.spec.roles.isEmpty then _ else _)
    (if plan.spec.roles.isEmpty then _ else _) _ _
  by_cases hroles : plan.spec.roles.isEmpty = true
  · rw [if_pos hroles, if_pos hroles]
    exact ⟨rfl, rfl⟩
  rw [if_neg hroles, if_neg hroles]
  have hlook : (Program.perform (.collection plan.database rolesCollection)).Agree ⟨hidden, true⟩ w
      (fun _ _ s t => t = s) Program.SameEnd (Program.perform (.collection plan.database rolesCollection))
      s s := rfl
  refine Program.agree_bind hlook fun _ _ s t hst => ?_
  obtain rfl := hst
  have hloop : (Program.each ((plan.under .upsert).seedRole now) plan.spec.roles).Agree ⟨hidden, true⟩ w
      (fun os os' s t => t = s ∧ List.Forall₂ (fun o o' => o.underSkip = o') os os') Program.SameEnd
      (Program.each ((plan.under .skip).seedRole now) plan.spec.roles) t t :=
    Program.agree_each (fun r _ s t hst => ?_) rfl
  · exact hloop.mono (fun os os' s t h => sameOutcomes_of_forall₂ h.1 h.2) fun _ _ _ _ he => he
  obtain rfl := hst
  refine Program.agree_bind (agree_guarded (agree_writeRole r)) fun a b s t hab => ?_
  exact Program.agree_bind (Program.agree_say hab) fun _ _ s t hab => hab

/-- The whole run, of a blind reader that reconciles and of a clear-sighted one that skips. -/
theorem agree_provision (hv : plan.spec.Valid) :
    ((plan.under .upsert).provision now).Agree ⟨hidden, true⟩ .clear
      (fun r r' s t => t = s ∧ r' = r.underSkip) Program.SameEnd ((plan.under .skip).provision now) s s := by
  have hlook (t : Server) : (Program.perform (.database plan.database)).Agree ⟨hidden, true⟩ .clear
      (fun _ _ s t => t = s) Program.SameEnd (Program.perform (.database plan.database)) t t := rfl
  refine Program.agree_bind (Program.agree_say (R := fun _ _ s t => t = s) rfl) fun _ _ s t hst => ?_
  obtain rfl := hst
  refine Program.agree_bind agree_principalStep fun os₁ os₁' s t h₁ => ?_
  obtain ⟨rfl, rfl⟩ := h₁
  refine Program.agree_bind (hlook t) fun _ _ s t hst => ?_
  obtain rfl := hst
  have hcollections : (plan.under .upsert).ensureCollections.Agree ⟨hidden, true⟩ .clear
      (fun os os' s t => SameOutcomes os os' s t ∧ ∀ n ∈ plan.spec.collectionNames, plan.Holds s n)
      Program.SameEnd (plan.under .skip).ensureCollections t t :=
    (agree_ensureCollections.and_left (ensureCollections_founds hv.collectionNames)).mono
      (fun _ _ _ _ h => ⟨h.1, fun n hn => h.2.2.holds hn⟩) fun _ _ _ _ h => h.1
  refine Program.agree_bind hcollections fun os₂ os₂' s t h₂ => ?_
  obtain ⟨⟨rfl, rfl⟩, hholds⟩ := h₂
  refine Program.agree_bind (agree_ensureIndexes hv fun c hc => hholds _ (List.mem_map_of_mem hc))
    fun os₃ os₃' s t h₃ => ?_
  obtain ⟨rfl, rfl⟩ := h₃
  refine Program.agree_bind agree_seedStep fun os₄ os₄' s t h₄ => ?_
  obtain ⟨rfl, rfl⟩ := h₄
  refine Program.agree_bind (Program.agree_say (R := fun _ _ s t => t = s) rfl) fun _ _ s t hst => ?_
  refine ⟨hst, ?_⟩
  simp only [Report.underSkip, List.map_append]
  rfl

/-! ### What is added -/

/-- All documents are there as they were, and after those of the roles come new ones: each is of a role that
had none, and no two are of the same. -/
structure Adds (plan : Plan) (now : Instant) (s t : Server) : Prop where
  elsewhere : ∀ d, d ≠ plan.database → t.databases.lookup d = s.databases.lookup d
  documents : ∀ n, n ≠ rolesCollection → t.documents plan.database n = s.documents plan.database n
  roles : ∃ new, plan.roleDocuments t = plan.roleDocuments s ++ new ∧
    (∀ d ∈ new, ∃ r ∈ plan.spec.roles, ∃ k, d = r.inserted (Server.issued k) now ∧
      r.first? (plan.roleDocuments s) = none) ∧
    (new.map fun d => d.lookup "code").Nodup

variable {u : Server} {r : RoleSeed}

theorem adds_refl : plan.Adds now s s :=
  ⟨fun _ _ => rfl, fun _ _ => rfl, [], (List.append_nil _).symm, nofun, .nil⟩

/-- What has no part in the documents adds none. -/
theorem Adds.of_documents (h : plan.Adds now s t)
    (elsewhere : ∀ d, d ≠ plan.database → u.databases.lookup d = t.databases.lookup d)
    (documents : ∀ n, u.documents plan.database n = t.documents plan.database n) : plan.Adds now s u where
  elsewhere := fun d hd => (elsewhere d hd).trans (h.elsewhere d hd)
  documents := fun n hn => (documents n).trans (h.documents n hn)
  roles := by
    obtain ⟨new, hnew, hrest⟩ := h.roles
    exact ⟨new, (documents _).trans hnew, hrest⟩

theorem Adds.of_databases (h : plan.Adds now s t) (hdatabases : u.databases = t.databases) :
    plan.Adds now s u := by
  refine h.of_documents (fun d _ => by rw [hdatabases]) fun n => ?_
  rw [Server.documents, Server.collection, Server.collection?, Server.collections, hdatabases]
  rfl

theorem Adds.of_founded {names : List String} (h : plan.Adds now s t) (hu : plan.Founded names t u) :
    plan.Adds now s u := by
  refine h.of_documents hu.elsewhere fun n => ?_
  rw [Server.documents, Server.collection, hu.collections n]
  split <;> rfl

theorem Adds.of_built {places : List (String × IndexSpec)} (h : plan.Adds now s t)
    (hu : plan.Built places t u) : plan.Adds now s u := h.of_documents hu.elsewhere hu.documents

/-- The document of a role that has none is added. -/
theorem Adds.insert (h : plan.Adds now s t) (hr : r ∈ plan.spec.roles)
    (hnone : r.first? (plan.roleDocuments t) = none) : plan.Adds now s (plan.put t rolesCollection
      { t.collection plan.database rolesCollection with
        documents := plan.roleDocuments t ++ [r.inserted (Server.issued t.identities) now] }
      (t.identities + 1)) where
  elsewhere := fun d hd => (Server.databases_putCollection hd).trans (h.elsewhere d hd)
  documents := fun n hn => by rw [documents_put, if_neg hn, h.documents n hn]
  roles := by
    obtain ⟨new, hnew, hall, hnodup⟩ := h.roles
    obtain ⟨hold, hno⟩ : r.first? (plan.roleDocuments s) = none ∧
        ∀ d ∈ new, d.lookup "code" ≠ some (.str r.code) := by
      rw [hnew, RoleSeed.first?, List.find?_append, Option.or_eq_none_iff] at hnone
      exact ⟨hnone.1, fun d hd hcode => List.find?_eq_none.1 hnone.2 d hd (decide_eq_true hcode)⟩
    refine ⟨new ++ [r.inserted (Server.issued t.identities) now], ?_, fun d hd => ?_, ?_⟩
    · rw [roleDocuments_putRoles, hnew, List.append_assoc]
    · rcases List.mem_append.1 hd with hd | hd
      · exact hall d hd
      · exact ⟨r, hr, t.identities, List.mem_singleton.1 hd, hold⟩
    · rw [List.map_append, List.nodup_append]
      refine ⟨hnodup, List.nodup_singleton _, ?_⟩
      rintro _ hcode _ hlast rfl
      obtain ⟨d, hd, hdr⟩ := List.mem_map.1 hcode
      exact hno d hd (hdr.trans (List.mem_singleton.1 hlast))

/-- A clear-sighted run that skips adds the documents of the roles that have none. -/
theorem seedStep_adds (h : plan.Adds now s t) : ((plan.under .skip).seedStep now).Assures
    (.alone (.faultless .clear)) (fun _ u => plan.Adds now s u) (fun _ _ => False) t := by
  unfold seedStep
  split
  · exact Program.assures_bind (Program.assures_say (Program.assures_done h))
  unfold seedRoles
  split
  · exact Program.assures_done h
  refine Program.assures_bind (Program.assures_answered rfl ?_)
  have hloop : (Program.each ((plan.under .skip).seedRole now) plan.spec.roles).Assures
      (.alone (.faultless .clear)) (fun _ u => plan.Adds now s u) (fun _ _ => False) t := by
    let inv (_ : List RoleSeed) (_ : List Outcome) (u : Server) : Prop := plan.Adds now s u
    have hstart : inv [] [] t := h
    refine Program.assures_each_with (fun before r after os u hr hu => ?_) hstart
    have hmem : r ∈ plan.spec.roles := by rw [hr]; simp
    -- a role that has a document by now, be it a new one, gets none
    have hinsert : ((plan.under .skip).insertRole r now .skipped).Assures (.alone (.faultless .clear))
        (fun _ w => plan.Adds now s w) (fun _ _ => False) u := by
      cases hfirst : r.first? (plan.roleDocuments u) with
      | some d =>
        refine (insertRole_of_stored hfirst).mono (fun a w hw => ?_) fun _ _ hf => hf
        obtain ⟨-, rfl⟩ := hw
        exact hu
      | none =>
        refine (insertRole_of_none hfirst).mono (fun a w hw => ?_) fun _ _ hf => hf
        obtain ⟨-, rfl⟩ := hw
        exact hu.insert hmem hfirst
    refine Program.assures_bind ((assures_guarded hinsert).mono (fun a w hw => ?_) fun _ _ hf => hf)
    exact Program.assures_bind (Program.assures_say (Program.assures_done hw))
  exact hloop

/-- A clear-sighted run that skips adds documents only, and fails with the refusal of an index only. -/
theorem provision_adds (hv : plan.spec.Valid) : ((plan.under .skip).provision now).Assures
    (.alone (.faultless .clear)) (fun _ t => plan.Adds now s t)
    (fun e t => plan.Adds now s t ∧ plan.Refused s e) s := by
  refine Program.assures_bind (Program.assures_say ?_)
  refine Program.assures_bind (principalStep_ends.mono (fun os₁ t ht => ?_) fun _ _ hf => hf.elim)
  refine Program.assures_bind (Program.assures_answered rfl ?_)
  refine Program.assures_bind ((ensureCollections_founds hv.collectionNames).mono (fun os₂ u hu => ?_)
    fun _ _ hf => hf.elim)
  have hadds : plan.Adds now s u := (adds_refl.of_databases ht).of_founded hu.2
  have hview (n name : String) : plan.view u n name = plan.view s n name := by
    have hkeeps : plan.KeepsIndexes (fun _ => True) s t := keepsIndexes_of_databases ht
    have hfounded : plan.view u n name = plan.view t n name := hu.2.view_eq n name
    exact hfounded.trans (hkeeps.indexes n trivial name)
  have hholds (c : CollectionSpec) (hc : c ∈ plan.spec.collections) : plan.Holds u c.name :=
    hu.2.holds (List.mem_map_of_mem hc)
  refine Program.assures_bind ((ensureIndexes_builds hv hholds).mono (fun os₃ w hw => ?_) fun e w hw => ?_)
  · refine Program.assures_bind ((seedStep_adds (hadds.of_built hw.built)).mono (fun os₄ x hx => ?_)
      fun _ _ hf => hf.elim)
    exact Program.assures_bind (Program.assures_say (Program.assures_done hx))
  · obtain ⟨hrefused, done, hbuilt⟩ := hw
    exact ⟨hadds.of_built hbuilt, hrefused.of_view hview⟩

/-- **Stale reads.**  A run that reconciles and reads stale, both the listing and every document, and a run
that skips and sees everything come to the same server, and to the same report but for the policy and for
seeds that were unchanged and are skipped; or they end with the same failure.  Both put new documents after
those that were there, at most one for a role that had none, and leave all others as they were; and the
failure is that of an index. -/
theorem provision_stale_reads (plan : Plan) (now : Instant) (hidden : List String) (s : Server)
    (hv : plan.spec.Valid) :
    let stale := ((plan.under .upsert).provision now).run ⟨hidden, true⟩ s []
    let skipping := ((plan.under .skip).provision now).run .clear s []
    skipping.server = stale.server ∧ skipping.result = stale.result.map Report.underSkip ∧
      plan.Adds now s stale.server ∧ ∀ e, stale.result = .error e → plan.Refused s e := by
  intro stale skipping
  have hagree : EndsAlike (fun r r' s t => t = s ∧ r' = r.underSkip) Program.SameEnd stale.result
      skipping.result stale.server skipping.server := agree_provision hv
  have hadds : Program.EndsAs (fun _ t => plan.Adds now s t) (fun e t => plan.Adds now s t ∧ plan.Refused s e)
      skipping.result skipping.server := (provision_adds hv).run_faultless
  -- what is added is read off the run that skips: the other one comes to the same server
  cases hstale : stale.result with
  | ok r =>
    cases hskipping : skipping.result with
    | ok r' =>
      rw [hstale, hskipping] at hagree
      rw [hskipping] at hadds
      obtain ⟨hserver, rfl⟩ := hagree
      exact ⟨hserver, rfl, hserver ▸ hadds, nofun⟩
    | error e =>
      rw [hstale, hskipping] at hagree
      exact hagree.elim
  | error e =>
    cases hskipping : skipping.result with
    | ok r =>
      rw [hstale, hskipping] at hagree
      exact hagree.elim
    | error e' =>
      rw [hstale, hskipping] at hagree
      rw [hskipping] at hadds
      obtain ⟨rfl, hserver⟩ := hagree
      refine ⟨hserver, rfl, hserver ▸ hadds.1, fun e he => ?_⟩
      obtain rfl := Except.error.inj he
      exact hadds.2

/-- The user and one collection are there already, and so is the document of one role, which has drifted; the
listing hides the collection. -/
theorem provision_stale_reads_drifted :
    let stale := ((builtIn.under .upsert).provision .epoch).run ⟨[rolesCollection], true⟩ .drifted []
    let skipping := ((builtIn.under .skip).provision .epoch).run .clear .drifted []
    skipping.server = stale.server ∧ skipping.result = stale.result.map Report.underSkip ∧
      builtIn.Adds .epoch .drifted stale.server ∧ ∀ e, stale.result = .error e → builtIn.Refused .drifted e :=
  provision_stale_reads builtIn .epoch [rolesCollection] .drifted (by decide +kernel)

end Plan

end Bringup
