import Bringup.Proofs.Provision.Setting

/-!
# The outline of a run

* `Plan.opening`, `Plan.closing` : a run up to the role documents, and from there on;
* `Undertaking.assures_provision` : in its setting a run stays among the servers that can be reached, no
  index is missing when it ends with a report, and undisturbed it ends as `Finished` says;
* `Plan.undertaking`, `Plan.finished_provision` : the same of the run that nothing disturbs.

There is one theorem for each step of the run, in the order of the steps.  Each says what holds in any
weather, and what holds besides when the weather is calm.
-/

namespace Bringup

namespace Plan

variable (plan : Plan)

/-- The run up to the role documents: the principal, the collections and the indexes. -/
def opening : Program (List Outcome) := do
  plan.tell s!"Provisioning database '{plan.database}'"
  let principal ← plan.principalStep
  Program.perform (.database plan.database)
  let collections ← plan.ensureCollections
  let indexes ← plan.ensureIndexes
  return principal ++ collections ++ indexes

/-- The rest of the run, given the outcomes so far. -/
def closing (now : Instant) (outcomes : List Outcome) : Program Report := do
  let seeds ← plan.seedStep now
  let report : Report :=
    { database := plan.database
      policy := plan.policy.name
      started := now
      finished := some now
      outcomes := outcomes ++ seeds }
  plan.tell s!"Provisioning finished: {report.summary}"
  return report

theorem provision_eq (now : Instant) : plan.provision now = plan.opening.bind (plan.closing now) := by
  simp only [provision, opening, Bind.bind, Pure.pure, Program.bind_assoc]
  refine congrArg _ (funext fun _ => congrArg _ (funext fun principal => ?_))
  refine ((Program.bind_assoc _ _ _).trans ?_).symm
  simp only [Program.bind_assoc]
  rfl

end Plan

namespace Undertaking

variable {U : Undertaking} {W : Weather} {s t : Server}

/-! ### The principal -/

/-- The step of the principal takes the refusal of a user that is there for what it is. -/
theorem assures_createPrincipal (h : U.Reach s) (hskip : U.plan.skipPrincipal = false) :
    U.plan.createPrincipal.Assures (U.setting W) (fun _ t => W.IsCalm → U.plan.HasUser t)
      (fun e t => (W.IsCalm → U.plan.HasUser t) ∧
        (U.Foul W t ∨ e.isDriver = true ∧ e.saysUserExists = true)) s := by
  have hfoul {t : Server} (hf : U.Foul W t) : W.IsCalm → U.plan.HasUser t := fun hc => absurd hc hf.2
  refine Program.assures_bind (assures_call h (fun _ _ hf => ⟨hfoul hf, .inl hf⟩)
    fun t v ht _ _ => ?_)
  refine ⟨moves_refl, ?_⟩
  refine Program.assures_bind (assures_call ht (fun _ _ hf => ⟨hfoul hf, .inl hf⟩)
    fun t v ht _ _ => ?_)
  rw [Server.answer_createUser]
  split
  · rename_i huser
    exact ⟨moves_refl, fun _ _ => huser, .inr ⟨rfl, rfl⟩⟩
  · rename_i huser
    have hmoves := ht.addUser hskip huser
    exact ⟨fun _ => hmoves, fun _ _ => by simp⟩

theorem assures_principalStep (h : U.Reach s) :
    U.plan.principalStep.Assures (U.setting W) (fun _ t => W.IsCalm → U.plan.HasUser t)
      (fun _ t => U.Foul W t) s := by
  unfold Plan.principalStep
  split
  · rename_i hskip
    refine Program.assures_bind (Program.assures_say (Program.assures_done fun _ hs => ?_))
    rw [hskip] at hs
    cases hs
  · rename_i hskip
    refine Program.assures_bind (Program.assures_bind ?_)
    have hcreate := assures_createPrincipal (W := W) h (by simpa using hskip)
    refine (Plan.assures_recovered hcreate).mono (fun action t ht => ?_) fun _ _ h => h
    exact Program.assures_bind (Program.assures_say (Program.assures_done ht))

/-! ### Collections -/

theorem assures_createCollection {n : String} (h : U.Reach s) (hv : U.plan.spec.Valid)
    (hn : n ∈ U.plan.spec.collectionNames) :
    (U.plan.createCollection n).Assures (U.setting W) (fun _ t => W.IsCalm → U.plan.Holds t n)
      (fun e t => (W.IsCalm → U.plan.Holds t n) ∧
        (U.Foul W t ∨ e.isDriver = true ∧ e.saysAlreadyExists = true)) s := by
  refine Program.assures_bind (assures_call h
    (fun _ _ hf => ⟨fun hc => absurd hc hf.2, .inl hf⟩) fun t v ht _ _ => ?_)
  rw [Server.answer_createCollection]
  split
  · rename_i hholds
    exact ⟨moves_refl, fun _ => hholds, .inr ⟨rfl, rfl⟩⟩
  · rename_i hholds
    have hmoves := ht.addCollection hv hn (by simpa using hholds)
    refine ⟨fun _ => hmoves, fun _ => ?_⟩
    change (Server.collection? _ _ _).isSome
    rw [Server.collection?_putCollection, if_pos rfl]
    rfl

theorem assures_ensureCollection {n : String} {existing : List String} (h : U.Reach s)
    (hv : U.plan.spec.Valid) (hn : n ∈ U.plan.spec.collectionNames)
    (hexisting : ∀ m ∈ existing, U.plan.Holds s m) :
    (U.plan.ensureCollection existing n).Assures (U.setting W)
      (fun _ t => W.IsCalm → U.plan.Holds t n) (fun _ t => U.Foul W t) s := by
  unfold Plan.ensureCollection
  split
  · rename_i hlisted
    refine Program.assures_bind (Program.assures_say (Program.assures_done fun _ => ?_))
    exact hexisting n (List.contains_iff_mem.1 hlisted)
  · have hcreate := assures_createCollection (W := W) h hv hn
    refine Program.assures_bind ((Plan.assures_recovered hcreate).mono (fun action t ht => ?_)
      fun _ _ h => h)
    refine Program.assures_bind ?_
    cases action <;> exact Program.assures_say (Program.assures_done ht)

theorem assures_ensureCollections (h : U.Reach s) (hv : U.plan.spec.Valid) :
    U.plan.ensureCollections.Assures (U.setting W)
      (fun _ t => W.IsCalm → ∀ n ∈ U.plan.spec.collectionNames, U.plan.Holds t n)
      (fun _ t => U.Foul W t) s := by
  have hlist : (U.plan.guarded .collections
      (Program.perform (.listCollections U.plan.database))).Assures (U.setting W)
      (fun (existing : List String) t => ∀ m ∈ existing, U.plan.Holds t m)
      (fun _ t => U.Foul W t) s := by
    refine Plan.assures_guarded (assures_call h (fun _ _ hf => hf) fun t v _ _ _ =>
      ⟨moves_refl, fun m hm => ?_⟩)
    exact Server.mem_listed.1 (List.mem_filter.1 hm).1
  refine assures_seq h hlist (fun _ _ hf => hf) fun (existing : List String) t ht _
    hexisting => ?_
  -- what was listed stays there, whoever else is at work
  let inv (before : List String) (u : Server) : Prop :=
    (∀ m ∈ existing, U.plan.Holds u m) ∧ (W.IsCalm → ∀ m ∈ before, U.plan.Holds u m)
  have hstart : inv [] t := ⟨hexisting, fun _ => by simp⟩
  refine (assures_loop ht hstart fun before n after u hnames hu _ hinv => ?_).mono
    (fun _ _ hinv => hinv.2) fun _ _ hf => hf
  have hn : n ∈ U.plan.spec.collectionNames := by rw [hnames]; simp
  refine (assures_ensureCollection hu hv hn hinv.1).mono (fun _ u' hholds _ hgrows => ?_)
    fun _ _ hf => hf
  refine ⟨fun m hm => hgrows.collections m (hinv.1 m hm), fun hcalm m hm => ?_⟩
  rcases List.mem_append.1 hm with hm | hm
  · exact hgrows.collections m (hinv.2 hcalm m hm)
  · obtain rfl := List.mem_singleton.1 hm
    exact hholds hcalm

/-! ### Indexes -/

/-- A declared index is made or found, or the run ends because it is blocked. -/
theorem assures_ensureIndex {n : String} {i : IndexSpec} {existing : Assoc IndexInfo}
    (h : U.Reach s) (hcalm : W.IsCalm → U.plan.Furnished s) (hv : U.plan.spec.Valid)
    (hdue : U.plan.Due s (n, i)) (hseen : U.Seen s n existing i) :
    (U.plan.ensureIndex n existing i).Assures (U.setting W)
      (fun _ t => U.plan.Indexed t (n, i)) (U.Failed W) s := by
  have hblocked {e : Failure} (he : U.blocks? (n, i) = some e) : U.Failed W e s :=
    ⟨h, fun hc => ⟨hcalm hc, (n, i), hdue, he⟩⟩
  unfold Seen at hseen
  unfold Plan.ensureIndex
  -- something was read under the name of the index, or nothing was
  cases hl : existing.lookup i.indexName with
  | some info =>
    simp only [hl] at hseen ⊢
    cases hm : i.matches? info with
    | error e =>
      rw [hm] at hseen
      exact hblocked hseen
    | ok same =>
      rw [hm] at hseen
      refine Program.assures_bind (Program.assures_done ?_)
      cases same with
      | true => exact Program.assures_bind (Program.assures_say (Program.assures_done hseen))
      | false =>
        exact Program.assures_bind (Program.assures_say (Program.assures_fail (hblocked hseen)))
  | none =>
    simp only [hl] at hseen ⊢
    have hnew : U.New s n i := ⟨hdue, hseen.1, hseen.2⟩
    have hmake : (U.plan.guarded .indexes
        (Program.perform (.createIndex U.plan.database n i))).Assures (U.setting W)
        (fun _ t => U.plan.Indexed t (n, i)) (fun _ t => U.Foul W t) s := by
      refine Plan.assures_guarded (assures_call h (fun _ _ hf => hf) fun t v ht hg _ => ?_)
      -- the collection may have got this index since its indexes were read
      obtain ⟨hreach, hgrows, hindexed⟩ := ht.addIndex hv (hnew.mono hg)
      exact ⟨fun _ => ⟨hreach, hgrows⟩, hindexed⟩
    refine Program.assures_bind (hmake.mono (fun _ t ht => ?_) fun e t ht => ht.failed e)
    exact Program.assures_bind (Program.assures_say (Program.assures_done ht))

/-- What is read of the indexes of a collection tells of the declared ones. -/
theorem assures_readIndexes {c : CollectionSpec} (hv : U.plan.spec.Valid)
    (hsteady : U.steady → W.IsCalm ∨ U.plan.spec.SparesIdentity) (h : U.Reach s)
    (hcalm : W.IsCalm → U.plan.Furnished s) (hc : c ∈ U.plan.spec.collections) :
    (U.plan.guarded .indexes
      (Program.perform (.indexInformation U.plan.database c.name))).Assures (U.setting W)
      (fun (existing : Assoc IndexInfo) t => ∀ i ∈ c.indexes, U.Seen t c.name existing i)
      (fun _ t => U.Foul W t) s := by
  refine Plan.assures_guarded (assures_call h (fun _ _ hf => hf) fun t v ht hg _ =>
    ⟨moves_refl, fun i hi => ?_⟩)
  have hplace : (c.name, i) ∈ U.plan.spec.places := SeedSpec.mem_places.2 ⟨c, hc, rfl, hi⟩
  refine ht.seen hv hplace fun hs => ?_
  rcases hsteady hs with hcalm' | hne
  -- the collection is there, or else no declared index has the name that only it would report
  · exact .inl (hg.collections _ ((hcalm hcalm').collections _ (List.mem_map_of_mem hc)))
  · exact .inr (hne _ hplace)

/-- The declared indexes of a collection are made or found, when those of the collections before it
are there. -/
theorem assures_ensureCollectionIndexes {before after : List CollectionSpec} {c : CollectionSpec}
    (hv : U.plan.spec.Valid) (hsteady : U.steady → W.IsCalm ∨ U.plan.spec.SparesIdentity)
    (h : U.Reach s) (hcalm : W.IsCalm → U.plan.Furnished s)
    (hcollections : U.plan.spec.collections = before ++ c :: after)
    (hbefore : ∀ d ∈ before, ∀ i ∈ d.indexes, U.plan.Indexed s (d.name, i)) :
    (U.plan.ensureCollectionIndexes c).Assures (U.setting W)
      (fun _ t => ∀ i ∈ c.indexes, U.plan.Indexed t (c.name, i)) (U.Failed W) s := by
  have hc : c ∈ U.plan.spec.collections := by rw [hcollections]; simp
  have hplace : ∀ i ∈ c.indexes, (c.name, i) ∈ U.plan.spec.places :=
    fun i hi => SeedSpec.mem_places.2 ⟨c, hc, rfl, hi⟩
  unfold Plan.ensureCollectionIndexes
  split
  · rename_i hempty
    refine Program.assures_done fun i hi => ?_
    rw [List.isEmpty_iff.1 hempty] at hi
    cases hi
  refine Program.assures_bind (assures_call h (fun e t hf => hf.failed e) fun t _ ht hg _ => ?_)
  refine ⟨moves_refl, ?_⟩
  have hread := assures_readIndexes hv hsteady ht (fun hcalm' => (hcalm hcalm').mono hg) hc
  refine assures_seq ht hread (fun e _ hf => hf.failed e) fun existing u hu hg' hseen => ?_
  have hgrown := hg.trans hg'
  let inv (done : List IndexSpec) (w : Server) : Prop :=
    ∀ j ∈ done, U.plan.Indexed w (c.name, j)
  have hstart : inv [] u := fun _ hj => by cases hj
  refine assures_loop hu hstart fun done i rest w hindexes hw hg'' hdone => ?_
  have hi : i ∈ c.indexes := by rw [hindexes]; simp
  -- what was built before stays built, whoever else is at work: the turn of `i` has come
  have hdue : U.plan.Due w (c.name, i) := by
    refine Plan.due_of_split hcollections hindexes (fun d hd j hj => ?_) hdone
    have hmem : (d.name, j) ∈ U.plan.spec.places :=
      SeedSpec.mem_places.2 ⟨d, by rw [hcollections]; simp [hd], rfl, hj⟩
    exact (hgrown.trans hg'').indexes _ hmem (hbefore d hd j hj)
  refine (assures_ensureIndex hw (fun hc => (hcalm hc).mono (hgrown.trans hg'')) hv hdue
    ((hseen i hi).mono hg'' (hplace i hi))).mono (fun _ w' hindexed _ hgrows j hj => ?_)
    fun _ _ hf => hf
  rcases List.mem_append.1 hj with hj | hj
  · exact hgrows.indexes _ (hplace j (by rw [hindexes]; simp [hj])) (hdone j hj)
  · obtain rfl := List.mem_singleton.1 hj
    exact hindexed

theorem assures_ensureIndexes (hv : U.plan.spec.Valid)
    (hsteady : U.steady → W.IsCalm ∨ U.plan.spec.SparesIdentity) (h : U.Reach s)
    (hcalm : W.IsCalm → U.plan.Furnished s) :
    U.plan.ensureIndexes.Assures (U.setting W)
      (fun _ t => ∀ p ∈ U.plan.spec.places, U.plan.Indexed t p) (U.Failed W) s := by
  let inv (before : List CollectionSpec) (t : Server) : Prop :=
    ∀ d ∈ before, ∀ i ∈ d.indexes, U.plan.Indexed t (d.name, i)
  have hstart : inv [] s := fun _ hd => by cases hd
  refine Program.assures_bind ((assures_loop h hstart
    fun before c after t hcollections ht hg hbefore => ?_).mono (fun _ t hall => ?_)
    fun _ _ hf => hf)
  · refine (assures_ensureCollectionIndexes hv hsteady ht (fun hc => (hcalm hc).mono hg)
      hcollections hbefore).mono (fun _ u hindexed _ hgrows d hd i hi => ?_) fun _ _ hf => hf
    rcases List.mem_append.1 hd with hd | hd
    · have hmem : (d.name, i) ∈ U.plan.spec.places :=
        SeedSpec.mem_places.2 ⟨d, by rw [hcollections]; simp [hd], rfl, hi⟩
      exact hgrows.indexes _ hmem (hbefore d hd i hi)
    · obtain rfl := List.mem_singleton.1 hd
      exact hindexed i hi
  · refine Program.assures_done ?_
    rintro ⟨n, i⟩ hp
    obtain ⟨c, hc, rfl, hi⟩ := SeedSpec.mem_places.1 hp
    exact hall c hc i hi

/-! ### Role documents -/

/-- The role has a document, and in calm weather it is settled. -/
def Seeded (U : Undertaking) (W : Weather) (r : RoleSeed) (s : Server) : Prop :=
  Plan.Present (U.plan.roleDocuments s) r ∧
    (W.IsCalm → U.plan.Settled (U.plan.roleDocuments s) r)

theorem Seeded.mono {r : RoleSeed} (h : U.Seeded W r s) (hr : r ∈ U.plan.seeds)
    (hg : U.plan.Grows s t) : U.Seeded W r t :=
  ⟨hg.present r hr h.1, fun hc => hg.settled r hr (h.2 hc)⟩

/-- When the role documents are written: all indexes are there, and so are the documents of the roles
before this one. -/
structure Turn (U : Undertaking) (q : RoleSeed) (s : Server) : Prop where
  reach : U.Reach s
  indexes : ∀ p ∈ U.plan.spec.places, U.plan.Indexed s p
  place : ∃ before after, U.plan.seeds = before ++ q :: after ∧
    ∀ r ∈ before, Plan.Present (U.plan.roleDocuments s) r

theorem Turn.mem {q : RoleSeed} (h : U.Turn q s) : q ∈ U.plan.seeds := by
  obtain ⟨before, after, hseeds, -⟩ := h.place
  rw [hseeds]
  simp

theorem Turn.mono {q : RoleSeed} (h : U.Turn q s) (ht : U.Reach t) (hg : U.plan.Grows s t) :
    U.Turn q t := by
  obtain ⟨before, after, hseeds, hbefore⟩ := h.place
  refine ⟨ht, fun p hp => hg.indexes p hp (h.indexes p hp), before, after, hseeds, fun r hr => ?_⟩
  exact hg.present r (by rw [hseeds]; simp [hr]) (hbefore r hr)

variable {q : RoleSeed} {now : Instant}

/-- A document is inserted or found.  In calm weather one that is found is settled: either the policy
leaves it as it is, or it has been inserted since the role was seen to have none. -/
theorem assures_insertRole (hfit : U.Fit W) (hnow : U.clock now) (h : U.Turn q s)
    (habsent : W.IsCalm → U.plan.policy = .upsert →
      (U.plan.roleDocuments U.origin).find? q.fits = none) (present : Action) :
    (U.plan.insertRole q now present).Assures (U.setting W) (fun _ t => U.Seeded W q t)
      (fun _ t => U.Foul W t) s := by
  have hinsert : (Program.perform (.insertIfAbsent U.plan.database rolesCollection
      (Plan.codeFilter q) (q.document now))).Assures (U.setting W) (fun _ t => U.Seeded W q t)
      (fun _ t => U.Foul W t) s := by
    refine assures_call h.reach (fun _ _ hf => hf) fun t v ht hg _ => ?_
    have hturn := h.mono ht hg
    rw [Server.answer_insertIfAbsent]
    split
    · rename_i hfound
      refine ⟨moves_refl, hfound, fun hc => ?_⟩
      obtain ⟨d, hd⟩ := Option.isSome_iff_exists.1 hfound
      cases hp : U.plan.policy with
      | skip => exact ⟨d, hd, fun hup => by rw [hp] at hup; cases hup⟩
      | upsert => exact ht.roles.settled_of_absent hfit.valid hturn.mem (habsent hc hp) hfound
    · rename_i hnone
      obtain ⟨before, after, hseeds, hbefore⟩ := hturn.place
      obtain ⟨hreach, hgrows, hsettled⟩ := ht.addRole hfit.valid hseeds hturn.indexes hbefore
        (Option.not_isSome_iff_eq_none.1 hnone) hnow
      exact ⟨fun _ => ⟨hreach, hgrows⟩, hsettled.present, fun _ => hsettled⟩
  exact Program.assures_bind (hinsert.mono (fun _ _ ht => Program.assures_done ht) fun _ _ h => h)

/-- A stored document is revised if it differs from the seed. -/
theorem assures_updateRole (hfit : U.Fit W) (hnow : U.clock now) (h : U.Turn q s)
    (hpolicy : U.plan.policy = .upsert) {stored : Fields}
    (hstored : (U.plan.roleDocuments s).find? q.fits = some stored) :
    (U.plan.updateRole q now stored).Assures (U.setting W) (fun _ t => U.Seeded W q t)
      (fun _ t => U.Foul W t) s := by
  unfold Plan.updateRole
  split
  · rename_i hdiff
    have hold := h.reach.roles.find?_old hfit.valid h.mem hstored hdiff hpolicy
    have hmem := List.mem_of_find?_eq_some hold
    obtain ⟨v, hidentity, hself⟩ := hfit.identified.identity stored hmem
    rw [hidentity]
    refine Program.assures_bind (assures_call h.reach (fun _ _ hf => hf) fun t _ ht hg _ => ?_)
    have hturn := h.mono ht hg
    rw [Server.answer_setFields (ht.roles.isSome_find?_identity hmem hidentity hself)]
    obtain ⟨hreach, hgrows, hsettled⟩ := ht.reviseRole hfit.valid hfit.identified hturn.mem hpolicy
      hturn.indexes hold hdiff hidentity hnow
    exact ⟨fun _ => ⟨hreach, hgrows⟩, Program.assures_done ⟨hsettled.present, fun _ => hsettled⟩⟩
  · rename_i hdiff
    have hsettled : U.plan.Settled (U.plan.roleDocuments s) q :=
      ⟨stored, hstored, fun _ => by simpa using hdiff⟩
    exact Program.assures_done ⟨hsettled.present, fun _ => hsettled⟩

/-- A role document is written by the policy of the plan. -/
theorem assures_writeRole (hfit : U.Fit W) (hnow : U.clock now) (h : U.Turn q s) :
    (U.plan.writeRole q now).Assures (U.setting W) (fun _ t => U.Seeded W q t)
      (fun _ t => U.Foul W t) s := by
  unfold Plan.writeRole
  cases hpolicy : U.plan.policy with
  | skip => exact assures_insertRole hfit hnow h (fun _ hup => by rw [hpolicy] at hup; cases hup) _
  | upsert =>
    refine Program.assures_bind (assures_call h.reach (fun _ _ hf => hf) fun t v ht hg hv => ?_)
    have hturn := h.mono ht hg
    cases hfound : if v.blind = true then none else (U.plan.roleDocuments t).find? q.fits with
    | none =>
      rw [Server.answer_findOne hfound]
      -- in calm weather the reading is not stale: the role has no document, and never had one
      refine ⟨moves_refl, assures_insertRole hfit hnow hturn (fun hc _ => ?_) _⟩
      rw [hc.2 v hv] at hfound
      change (U.plan.roleDocuments t).find? q.fits = none at hfound
      cases hold : (U.plan.roleDocuments U.origin).find? q.fits with
      | none => rfl
      | some d =>
        have hpresent := ht.roles.present (q := q) (by rw [Plan.Present, hold]; rfl)
        rw [Plan.Present, hfound] at hpresent
        cases hpresent
    | some stored =>
      rw [Server.answer_findOne hfound]
      refine ⟨moves_refl, assures_updateRole hfit hnow hturn hpolicy ?_⟩
      split at hfound
      · cases hfound
      · exact hfound

theorem assures_seedRole (hfit : U.Fit W) (hnow : U.clock now) (h : U.Turn q s) :
    (U.plan.seedRole now q).Assures (U.setting W) (fun _ t => U.Seeded W q t)
      (fun _ t => U.Foul W t) s := by
  refine Program.assures_bind ((Plan.assures_guarded (assures_writeRole hfit hnow h)).mono
    (fun _ t ht => ?_) fun _ _ hf => hf)
  exact Program.assures_bind (Program.assures_say (Program.assures_done ht))

theorem assures_seedStep (hfit : U.Fit W) (hnow : U.clock now) (h : U.Reach s)
    (hindexes : ∀ p ∈ U.plan.spec.places, U.plan.Indexed s p) :
    (U.plan.seedStep now).Assures (U.setting W)
      (fun _ t => ∀ r ∈ U.plan.seeds, U.Seeded W r t) (fun _ t => U.Foul W t) s := by
  unfold Plan.seedStep
  split
  · rename_i hskip
    refine Program.assures_bind (Program.assures_say (Program.assures_done fun r hr => ?_))
    rw [Plan.seeds, if_pos hskip] at hr
    cases hr
  rename_i hskip
  have hseeds : U.plan.seeds = U.plan.spec.roles := if_neg hskip
  unfold Plan.seedRoles
  split
  · rename_i hempty
    refine Program.assures_done fun r hr => ?_
    rw [hseeds, List.isEmpty_iff.1 hempty] at hr
    cases hr
  refine Program.assures_bind (assures_call h (fun _ _ hf => hf) fun t _ ht hg _ => ?_)
  refine ⟨moves_refl, ?_⟩
  let inv (before : List RoleSeed) (u : Server) : Prop := ∀ r ∈ before, U.Seeded W r u
  have hstart : inv [] t := fun _ hr => by cases hr
  refine (assures_loop ht hstart fun before q after u hroles hu hg' hbefore => ?_).mono
    (fun _ _ hall r hr => hall r (hseeds ▸ hr)) fun _ _ hf => hf
  have hturn : U.Turn q u :=
    ⟨hu, fun p hp => (hg.trans hg').indexes p hp (hindexes p hp), before, after,
      hseeds.trans hroles, fun r hr => (hbefore r hr).1⟩
  refine (assures_seedRole hfit hnow hturn).mono (fun _ u' hseeded _ hgrows r hr => ?_)
    fun _ _ hf => hf
  rcases List.mem_append.1 hr with hr | hr
  · exact (hbefore r hr).mono (by rw [hseeds, hroles]; simp [hr]) hgrows
  · obtain rfl := List.mem_singleton.1 hr
    exact hseeded

/-! ### The run -/

/-- When the role documents come: all indexes are there, and in calm weather the user and the collections
are. -/
theorem assures_opening (hv : U.plan.spec.Valid)
    (hsteady : U.steady → W.IsCalm ∨ U.plan.spec.SparesIdentity) (h : U.Reach s) :
    U.plan.opening.Assures (U.setting W)
      (fun _ t => (∀ p ∈ U.plan.spec.places, U.plan.Indexed t p) ∧ (W.IsCalm → U.plan.Furnished t))
      (U.Failed W) s := by
  refine Program.assures_bind (Program.assures_say ?_)
  refine assures_seq h (assures_principalStep h) (fun e _ hf => hf.failed e)
    fun _ s₁ h₁ _ huser => ?_
  refine Program.assures_bind (assures_call h₁ (fun e _ hf => hf.failed e) fun s₂ _ h₂ hg₂ _ => ?_)
  refine ⟨moves_refl, ?_⟩
  refine assures_seq h₂ (assures_ensureCollections h₂ hv) (fun e _ hf => hf.failed e)
    fun _ s₃ h₃ hg₃ hcollections => ?_
  have hfurnished : W.IsCalm → U.plan.Furnished s₃ :=
    fun hc => ⟨(huser hc).mono (hg₂.trans hg₃), hcollections hc⟩
  refine assures_seq h₃ (assures_ensureIndexes hv hsteady h₃ hfurnished) (fun _ _ hf => hf)
    fun _ s₄ h₄ hg₄ hindexes => ?_
  exact Program.assures_done ⟨hindexes, fun hc => (hfurnished hc).mono hg₄⟩

/-- How a run may end with a report. -/
def Ended (U : Undertaking) (W : Weather) (s : Server) : Prop :=
  U.Reach s ∧ (∀ p ∈ U.plan.spec.places, U.plan.Indexed s p) ∧ (W.IsCalm → U.plan.Complete s)

/-- A run stays among the servers that can be reached.  When it ends with a report, all indexes are there,
and in calm weather everything is; when it ends with a failure in calm weather, an index is blocked. -/
theorem assures_provision (hfit : U.Fit W) (hnow : U.clock now) (h : U.Reach s) :
    (U.plan.provision now).Assures (U.setting W) (fun _ t => U.Ended W t) (U.Failed W) s := by
  rw [Plan.provision_eq]
  refine assures_seq h (assures_opening hfit.valid hfit.steady h) (fun _ _ hf => hf)
    fun _ t ht _ hopen => ?_
  obtain ⟨hindexes, hfurnished⟩ := hopen
  refine assures_seq ht (assures_seedStep hfit hnow ht hindexes) (fun e _ hf => hf.failed e)
    fun _ u hu hg hseeded => ?_
  have hall := fun p hp => hg.indexes p hp (hindexes p hp)
  refine Program.assures_bind (Program.assures_say (Program.assures_done ⟨hu, hall, fun hc => ?_⟩))
  exact ⟨(hfurnished hc).mono hg, hall, fun r hr => (hseeded r hr).2 hc⟩

/-- How an undisturbed run ends, by its result. -/
theorem finished_of_endsAs {r : Except Failure Report}
    (h : Program.EndsAs (fun (_ : Report) t => U.Ended W t) (U.Failed W) r t) :
    U.Reach t ∧ (W.IsCalm → U.Finished r t) := by
  cases r with
  | ok report => exact ⟨h.1, h.2.2⟩
  | error e => exact h

/-- The same for the courses of a run. -/
theorem course_provision {calls : List Call} {r : Except Failure Report} (hfit : U.Fit W)
    (hnow : U.clock now) (h : U.Reach s)
    (hcourse : Program.Course W (U.plan.provision now) s calls r t) :
    U.Reach t ∧ (W.IsCalm → U.Finished r t) :=
  finished_of_endsAs ((assures_provision hfit hnow h).course hcourse moves_refl
    fun _ => moves_refl).1

end Undertaking

namespace Plan

/-- The undertaking of runs from a server, whenever they are made. -/
def undertaking (plan : Plan) (s : Server) : Undertaking := ⟨plan, fun _ => True, True, s⟩

variable {plan : Plan} {s : Server}

theorem fit_of_calm {W : Weather} (hv : plan.spec.Valid) (hid : Identified (plan.roleDocuments s))
    (hcalm : W.IsCalm) : (plan.undertaking s).Fit W := ⟨hv, hid, fun _ => .inl hcalm⟩

/-- How a run ends that nothing disturbs. -/
theorem finished_provision (hv : plan.spec.Valid) (hid : Identified (plan.roleDocuments s))
    (now : Instant) :
    let run := (plan.provision now).run .clear s []
    (plan.undertaking s).Reach run.server ∧
      (plan.undertaking s).Finished run.result run.server := by
  intro run
  obtain ⟨hreach, hfinished⟩ := Undertaking.course_provision (U := plan.undertaking s)
    (fit_of_calm hv hid Weather.isCalm_calm) trivial Undertaking.reach_origin
    (Program.course_run_calm (plan.provision now) s)
  exact ⟨hreach, hfinished Weather.isCalm_calm⟩

/-- The built-in layout under the policy that reconciles. -/
def builtIn : Plan where
  spec := ⟨"app", ⟨"service", "secret", "readWrite", "app"⟩, SeedSpec.builtInCollections,
    SeedSpec.builtInRoles⟩
  policy := .upsert
  skipPrincipal := false
  skipSeed := false

end Plan

/-- A server where the user is there already, and the document of one role of the built-in layout has
drifted. -/
def Server.drifted : Server where
  users := ["service"]
  databases := [("app", [(rolesCollection,
    ⟨[], [[("_id", .str "first"), ("code", .str "admin"), ("name", .str "old")]]⟩)])]
  identities := 0

/-- The start of the calendar of clocks. -/
def Instant.epoch : Instant := ⟨0, none⟩

end Bringup
