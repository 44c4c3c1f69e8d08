import Bringup.Proofs.Program.Agreement
import Bringup.Proofs.Provision.Conduct
import Bringup.Proofs.Provision.Groundwork
import Bringup.Proofs.Server.ByName

/-!
# The order of declarations does not matter

* `SeedSpec.Reordered` : the same specification, with its collections in another order, and the indexes in
  each of them;
* `Plan.Founded.sameByName`, `Plan.Built.sameByName` : what is made of a set of objects is the same by name;
* `Plan.agree_provision_reordered` : the runs of both specifications side by side;
* `Plan.provision_reordered` : both end with a report or both fail, and with reports they come to the same.

Collections and indexes are dealt with in an order of their own by each run, and what they come to is told by
the set of objects.  The role documents are written by both in the same order, and so these runs go in step.
-/

namespace Bringup

namespace SeedSpec

variable {spec spec' : SeedSpec}

/-- The same collection, with its indexes in another order. -/
def SameCollection (c c' : CollectionSpec) : Prop := c'.name = c.name ∧ c'.indexes.Perm c.indexes

variable {collections collections' : List CollectionSpec}

theorem map_name_of_forall₂ (h : List.Forall₂ SameCollection collections collections') :
    collections'.map CollectionSpec.name = collections.map CollectionSpec.name := by
  induction h with
  | nil => rfl
  | cons hc _ ih => rw [List.map_cons, List.map_cons, hc.1, ih]

theorem placesOf_perm_of_forall₂ (h : List.Forall₂ SameCollection collections collections') :
    (Plan.placesOf collections').Perm (Plan.placesOf collections) := by
  induction h with
  | nil => exact .refl _
  | cons hc _ ih =>
    rw [Plan.placesOf, Plan.placesOf, List.flatMap_cons, List.flatMap_cons, hc.1]
    exact (hc.2.map _).append ih

theorem exists_sameCollection (h : List.Forall₂ SameCollection collections collections')
    {c' : CollectionSpec} (hc : c' ∈ collections') : ∃ c ∈ collections, SameCollection c c' := by
  induction h with
  | nil => cases hc
  | cons hsame _ ih =>
    cases hc with
    | head => exact ⟨_, .head _, hsame⟩
    | tail _ hc =>
      obtain ⟨c, hmem, hsame⟩ := ih hc
      exact ⟨c, .tail _ hmem, hsame⟩

/-- The same specification, with its collections in another order, and the indexes in each of them. -/
inductive Reordered (spec : SeedSpec) : SeedSpec → Prop
  | intro {collections collections' : List CollectionSpec} : collections.Perm spec.collections →
    List.Forall₂ SameCollection collections collections' →
    Reordered spec { spec with collections := collections' }

namespace Reordered

theorem collectionNames (h : spec.Reordered spec') : spec'.collectionNames.Perm spec.collectionNames := by
  obtain ⟨hperm, hsame⟩ := h
  rw [SeedSpec.collectionNames, map_name_of_forall₂ hsame]
  exact hperm.map _

theorem places (h : spec.Reordered spec') : spec'.places.Perm spec.places := by
  obtain ⟨hperm, hsame⟩ := h
  exact (placesOf_perm_of_forall₂ hsame).trans (hperm.flatMap_right _)

/-- No rule asks for an order of collections or of indexes. -/
theorem valid (h : spec.Reordered spec') (hv : spec.Valid) : spec'.Valid where
  database := by
    obtain ⟨-, -⟩ := h
    exact hv.database
  principal := by
    obtain ⟨-, -⟩ := h
    exact hv.principal
  collections := by
    obtain ⟨hperm, hsame⟩ := h
    intro c' hc'
    obtain ⟨c, hc, hname, hindexes⟩ := exists_sameCollection hsame hc'
    have hcv := hv.collections c (hperm.mem_iff.1 hc)
    refine ⟨hname ▸ hcv.name, fun i hi => hcv.indexes i (hindexes.mem_iff.1 hi), ?_⟩
    exact (hindexes.map _).nodup_iff.2 hcv.distinct
  collectionNames := h.collectionNames.nodup_iff.2 hv.collectionNames
  roles := by
    obtain ⟨-, -⟩ := h
    exact hv.roles
  roleCodes := by
    obtain ⟨-, -⟩ := h
    exact hv.roleCodes
  rolesDeclared := by
    have hnames := h.collectionNames
    obtain ⟨-, -⟩ := h
    exact fun hroles => hnames.mem_iff.2 (hv.rolesDeclared hroles)

end Reordered

end SeedSpec

namespace Plan

variable {plan plan' : Plan} {now : Instant} {sight : Sight} {s t s' t' : Server}
  {names names' : List String} {places places' : List (String × IndexSpec)} {os os' : List Outcome}

/-! ### The same objects in another order -/

/-- Collections that are founded from the same server, in any order, are the same. -/
theorem Founded.sameByName (h : plan.Founded names s t) (h' : plan.Founded names' s t')
    (hnames : names'.Perm names) : t.SameByName t' := by
  have hcollection? (d n : String) : t'.collection? d n = t.collection? d n := by
    by_cases hd : d = plan.database
    · rw [hd, h'.collections n, h.collections n]
      simp only [hnames.mem_iff]
    · exact Server.collection?_of_lookup ((h'.elsewhere d hd).trans (h.elsewhere d hd).symm)
  have hcollection (d n : String) : t'.collection d n = t.collection d n := by
    rw [Server.collection, hcollection?]
    rfl
  exact {
    users := h'.users.trans h.users.symm
    identities := h'.identities.trans h.identities.symm
    collections := fun d n => by rw [hcollection?]
    indexes := fun d n index => by
      rw [Server.view, hcollection]
      rfl
    documents := fun d n => by
      rw [Server.documents, hcollection]
      rfl }

/-- Indexes that are built at servers that are the same, in any order, are the same. -/
theorem Built.sameByName (h : plan.Built places s t) (h' : plan.Built places' s' t')
    (hsame : s.SameByName s') (hplaces : places'.Perm places) : t.SameByName t' where
  users := h'.users.trans (hsame.users.trans h.users.symm)
  identities := h'.identities.trans (hsame.identities.trans h.identities.symm)
  collections := fun d n => by
    by_cases hd : d = plan.database
    · rw [hd]
      exact (h'.collections n).trans ((hsame.collections _ n).trans (h.collections n).symm)
    · rw [Server.collection?_of_lookup (h'.elsewhere d hd), Server.collection?_of_lookup (h.elsewhere d hd)]
      exact hsame.collections d n
  indexes := fun d n index => by
    by_cases hd : d = plan.database
    · have hview : plan.view s' n index = plan.view s n index := hsame.indexes plan.database n index
      rw [hd]
      change plan.view t' n index = plan.view t n index
      -- whether an index is made depends on the first server and on the declarations, not on the turn
      by_cases hmade : ∃ p ∈ places, p.1 = n ∧ p.2.indexName = index ∧ (plan.view s n index).reported = none
      · obtain ⟨p, hp, rfl, rfl, hnone⟩ := hmade
        rw [h.made p hp hnone, h'.made p (hplaces.mem_iff.2 hp) (by rw [hview, hnone])]
      · have hkept : ∀ p ∈ places, p.1 = n → p.2.indexName = index → (plan.view s n index).reported ≠ none :=
          fun p hp hn hname hnone => hmade ⟨p, hp, hn, hname, hnone⟩
        rw [h.kept n index hkept, h'.kept n index fun p hp => hview ▸ hkept p (hplaces.mem_iff.1 hp), hview]
    · rw [Server.view, Server.collection_of_lookup (h'.elsewhere d hd), Server.view,
        Server.collection_of_lookup (h.elsewhere d hd)]
      exact hsame.indexes d n index
  documents := fun d n => by
    by_cases hd : d = plan.database
    · rw [hd, h'.documents n, h.documents n]
      exact hsame.documents _ n
    · rw [Server.documents, Server.collection_of_lookup (h'.elsewhere d hd), Server.documents,
        Server.collection_of_lookup (h.elsewhere d hd)]
      exact hsame.documents d n

theorem Progress.outcomes_perm (h : plan.Progress s places os t) (h' : plan.Progress s' places' os' t')
    (hsame : s.SameByName s') (hplaces : places'.Perm places) : os'.Perm os := by
  have houtcome (p : String × IndexSpec) : plan.indexOutcome s' p = plan.indexOutcome s p := by
    have hview : plan.view s' p.1 p.2.indexName = plan.view s p.1 p.2.indexName := hsame.indexes ..
    rw [indexOutcome, hview]
    rfl
  rw [h.outcomes, h'.outcomes, List.map_congr_left fun p _ => houtcome p]
  exact hplaces.map _

/-! ### The runs -/

/-- The plan with these collections in the place of its own. -/
def declaring (plan : Plan) (collections : List CollectionSpec) : Plan :=
  { plan with spec := { plan.spec with collections } }

variable {collections : List CollectionSpec}

/-- What was founded and what was built go by the database alone. -/
theorem Founded.of_declaring (h : (plan.declaring collections).Founded names s t) :
    plan.Founded names s t := ⟨h.users, h.identities, h.elsewhere, h.collections⟩

theorem Progress.of_declaring (h : (plan.declaring collections).Progress s places os t) :
    plan.Progress s places os t :=
  have hbuilt := h.built
  ⟨⟨hbuilt.users, hbuilt.identities, hbuilt.elsewhere, hbuilt.collections, hbuilt.documents, hbuilt.made,
    hbuilt.kept⟩, h.outcomes, h.free⟩

/-- Both have failed. -/
def BothEnd (_ _ : Failure) (_ _ : Server) : Prop := True

theorem agree_ensureCollections_reordered (hv : plan.spec.Valid) (hv' : (plan.declaring collections).spec.Valid)
    (hnames : (plan.declaring collections).spec.collectionNames.Perm plan.spec.collectionNames) :
    plan.ensureCollections.Agree .clear .clear
      (fun os os' t t' => os'.Perm os ∧ t.SameByName t' ∧ (∀ n ∈ plan.spec.collectionNames, plan.Holds t n) ∧
        ∀ n ∈ (plan.declaring collections).spec.collectionNames, plan.Holds t' n)
      BothEnd (plan.declaring collections).ensureCollections s s := by
  refine Program.agree_of_values (ensureCollections_founds hv.collectionNames)
    (ensureCollections_founds hv'.collectionNames) ?_
  rintro _ _ t t' ⟨rfl, h⟩ ⟨rfl, h'⟩
  exact ⟨hnames.map _, h.sameByName h'.of_declaring hnames, fun n hn => h.holds hn, fun n hn => h'.holds hn⟩

theorem agree_ensureIndexes_reordered (hv : plan.spec.Valid) (hv' : (plan.declaring collections).spec.Valid)
    (hplaces : (plan.declaring collections).spec.places.Perm plan.spec.places) (hsame : s.SameByName s')
    (hholds : ∀ n ∈ plan.spec.collectionNames, plan.Holds s n)
    (hholds' : ∀ n ∈ (plan.declaring collections).spec.collectionNames, plan.Holds s' n) :
    plan.ensureIndexes.Agree .clear .clear (fun os os' t t' => os'.Perm os ∧ t.SameByName t') BothEnd
      (plan.declaring collections).ensureIndexes s s' := by
  have hview (n index : String) : plan.view s' n index = plan.view s n index := hsame.indexes ..
  refine Program.agree_of_assures
    (ensureIndexes_builds hv fun c hc => hholds _ (List.mem_map_of_mem hc))
    (ensureIndexes_builds hv' fun c hc => hholds' _ (List.mem_map_of_mem hc)) fun x y t t' hx hy => ?_
  -- an index that is refused in one order is not free in the other
  cases x with
  | ok os =>
    cases y with
    | ok os' =>
      have hy' : plan.Progress s' (plan.declaring collections).spec.places os' t' := hy.of_declaring
      exact ⟨hx.outcomes_perm hy' hsame hplaces, hx.built.sameByName hy'.built hsame hplaces⟩
    | error e =>
      obtain ⟨p, hp, info, hinfo, hm, -⟩ := hy.1
      exact hm (hx.free p (hplaces.mem_iff.1 hp) info ((hview ..) ▸ hinfo))
  | error e =>
    cases y with
    | ok os' =>
      obtain ⟨p, hp, info, hinfo, hm, -⟩ := hx.1
      exact hm (hy.free p (hplaces.mem_iff.2 hp) info ((hview ..).symm ▸ hinfo))
    | error e' => trivial

/-- The role documents are written in the same order, and with the same replies. -/
theorem agree_seedStep_reordered (hsame : s.SameByName s') : (plan.seedStep now).Agree .clear .clear
    (fun os os' t t' => os' = os ∧ t.SameByName t') BothEnd ((plan.declaring collections).seedStep now)
    s s' := by
  have hself : (plan.seedStep now).Agree .clear .clear (fun os os' t t' => os' = os ∧ t.SameByName t')
      (fun e e' t t' => e' = e ∧ t.SameByName t') (plan.seedStep now) s s' :=
    Program.agree_self within_seedStep.callsIn (fun _ _ _ hc h => h.answer hc) hsame
  have hplan : (plan.declaring collections).seedStep now = plan.seedStep now := seedStep_congr rfl rfl rfl rfl
  rw [hplan]
  exact hself.mono (fun _ _ _ _ h => h) fun _ _ _ _ _ => trivial

theorem agree_provision_reordered (hv : plan.spec.Valid)
    (h : plan.spec.Reordered (plan.declaring collections).spec) :
    (plan.provision now).Agree .clear .clear (fun r r' t t' => t.SameByName t' ∧
      r'.outcomes.Perm r.outcomes ∧ r' = { r with outcomes := r'.outcomes }) BothEnd
      ((plan.declaring collections).provision now) s s := by
  have hv' := h.valid hv
  have hlook (t : Server) : (Program.perform (.database plan.database)).Agree .clear .clear
      (fun _ _ t t' => t' = t) BothEnd (Program.perform (.database plan.database)) t t := rfl
  refine Program.agree_bind (Program.agree_say (R := fun _ _ t t' => t' = t) rfl) fun _ _ t t' ht => ?_
  obtain rfl := ht
  have hprincipal : plan.principalStep.Agree .clear .clear (fun os os' t t' => os' = os ∧ t' = t) BothEnd
      (plan.declaring collections).principalStep t' t' :=
    Program.agree_refl.mono (fun _ _ _ _ h => h) fun _ _ _ _ _ => trivial
  refine Program.agree_bind hprincipal fun os₁ os₁' t t' h₁ => ?_
  obtain ⟨rfl, rfl⟩ := h₁
  refine Program.agree_bind (hlook t') fun _ _ t t' ht => ?_
  obtain rfl := ht
  refine Program.agree_bind (agree_ensureCollections_reordered hv hv' h.collectionNames)
    fun os₂ os₂' t t' h₂ => ?_
  obtain ⟨hos₂, hsame, hholds, hholds'⟩ := h₂
  refine Program.agree_bind (agree_ensureIndexes_reordered hv hv' h.places hsame hholds hholds')
    fun os₃ os₃' t t' h₃ => ?_
  obtain ⟨hos₃, hsame⟩ := h₃
  refine Program.agree_bind (agree_seedStep_reordered hsame) fun os₄ os₄' t t' h₄ => ?_
  obtain ⟨rfl, hsame⟩ := h₄
  refine Program.agree_bind (Program.agree_say (R := fun _ _ t t' => t.SameByName t') hsame)
    fun _ _ t t' hsame => ?_
  exact ⟨hsame, ((hos₂.append_left os₁').append hos₃).append_right os₄', rfl⟩

/-- **Reordering.**  Of two specifications that differ in the order of their collections and of the indexes
in them, runs without faults from one server both end with a report or both fail.  With reports they come to
servers that are the same by name, and the reports are the same but for the order of the outcomes. -/
theorem provision_reordered (plan : Plan) (spec' : SeedSpec) (now : Instant) (s : Server)
    (hv : plan.spec.Valid) (h : plan.spec.Reordered spec') :
    let run := (plan.provision now).run .clear s []
    let run' := ({ plan with spec := spec' }.provision now).run .clear s []
    run'.result.isOk = run.result.isOk ∧ ∀ r r', run.result = .ok r → run'.result = .ok r' →
      run.server.SameByName run'.server ∧ r'.outcomes.Perm r.outcomes ∧
        r' = { r with outcomes := r'.outcomes } := by
  have hagree : (plan.provision now).Agree .clear .clear (fun r r' t t' => t.SameByName t' ∧
      r'.outcomes.Perm r.outcomes ∧ r' = { r with outcomes := r'.outcomes }) BothEnd
      ({ plan with spec := spec' }.provision now) s s := by
    obtain @⟨_, collections, hperm, hsame⟩ := h
    exact agree_provision_reordered hv (.intro hperm hsame)
  intro run run'
  change EndsAlike _ _ run.result run'.result run.server run'.server at hagree
  unfold EndsAlike at hagree
  split at hagree <;> rename_i hrun hrun'
  · rw [hrun, hrun']
    refine ⟨rfl, fun r r' hr hr' => ?_⟩
    obtain rfl := Except.ok.inj hr
    obtain rfl := Except.ok.inj hr'
    exact hagree
  · rw [hrun, hrun']
    exact ⟨rfl, fun r r' hr => by cases hr⟩
  · exact hagree.elim

/-- The built-in layout with its collections, and the indexes in each of them, from the last to the first. -/
def builtInReversed : SeedSpec :=
  { builtIn.spec with
    collections := builtIn.spec.collections.reverse.map fun c => { c with indexes := c.indexes.reverse } }

theorem reordered_builtInReversed : builtIn.spec.Reordered builtInReversed := by
  refine .intro (List.reverse_perm _) ?_
  rw [List.forall₂_map_right_iff, List.forall₂_same]
  exact fun c _ => ⟨rfl, List.reverse_perm _⟩

theorem provision_reordered_builtIn :
    let run := (builtIn.provision .epoch).run .clear .drifted []
    let run' := ({ builtIn with spec := builtInReversed }.provision .epoch).run .clear .drifted []
    run'.result.isOk = run.result.isOk ∧ ∀ r r', run.result = .ok r → run'.result = .ok r' →
      run.server.SameByName run'.server ∧ r'.outcomes.Perm r.outcomes ∧
        r' = { r with outcomes := r'.outcomes } :=
  provision_reordered builtIn builtInReversed .epoch .drifted (by decide +kernel) reordered_builtInReversed

end Plan

end Bringup
