import Bringup.Proofs.Program.Halting
import Bringup.Proofs.Provision.Outline
import Bringup.Proofs.Spec.Reported

/-!
# Where a conflict of indexes ends a run

* `Plan.Free` : a declared index may be created, or is there as it is declared;
* `Plan.Reaches` : the declared index up to which all are free;
* `Plan.refusal` : what an index that is not free comes to;
* `Plan.provision_halts` : a run without faults ends at the first index that is not free, with its
  refusal, and asks for nothing after it;
* `Plan.index_conflicts_decided` : a stored index whose directions are whole numbers is refused just
  when it is another one than is declared;
* `Plan.index_conflict_escapes` : a direction that stands for no whole number is not refused: the failure of
  reading it leaves the run, and a fraction is overlooked.

Up to the indexes, a run without faults comes to its end whatever a reader overlooks, and leaves the
indexes as they are.
-/

namespace Bringup

namespace Plan

/-- No collection is lost, and of those named the indexes are as they were. -/
structure KeepsIndexes (plan : Plan) (names : String → Prop) (s t : Server) : Prop where
  collections : ∀ n, plan.Holds s n → plan.Holds t n
  indexes : ∀ n, names n → ∀ name, plan.view t n name = plan.view s n name

variable {plan : Plan} {sight : Sight} {names : String → Prop} {s t u : Server} {n : String}

theorem KeepsIndexes.refl : plan.KeepsIndexes names s s := ⟨fun _ h => h, fun _ _ _ => rfl⟩

theorem KeepsIndexes.trans (h : plan.KeepsIndexes names s t) (h' : plan.KeepsIndexes names t u) :
    plan.KeepsIndexes names s u where
  collections := fun n hn => h'.collections n (h.collections n hn)
  indexes := fun n hn name => (h'.indexes n hn name).trans (h.indexes n hn name)

theorem KeepsIndexes.mono {names' : String → Prop} (h : plan.KeepsIndexes names s t)
    (hnames : ∀ n, names' n → names n) : plan.KeepsIndexes names' s t :=
  ⟨h.collections, fun n hn => h.indexes n (hnames n hn)⟩

theorem keepsIndexes_of_databases (h : t.databases = s.databases) : plan.KeepsIndexes names s t := by
  have hcollection (n : String) : t.collection? plan.database n = s.collection? plan.database n := by
    rw [Server.collection?, Server.collections, h]
    rfl
  refine ⟨fun n hn => ?_, fun n _ name => ?_⟩
  · rw [Holds, hcollection]
    exact hn
  · rw [view, Server.view, Server.collection, hcollection]
    rfl

/-! ### Before the indexes -/

/-- Without faults the step of the principal comes to an end, and touches no database. -/
theorem principalStep_ends : plan.principalStep.Assures (.alone (.faultless sight))
    (fun _ t => t.databases = s.databases) (fun _ _ => False) s := by
  unfold principalStep
  split
  · exact Program.assures_bind (Program.assures_say (Program.assures_done rfl))
  have hcreate : plan.createPrincipal.Assures (.alone (.faultless sight))
      (fun _ t => t.databases = s.databases)
      (fun e t => t.databases = s.databases ∧ (False ∨ e.isDriver = true ∧ e.saysUserExists = true))
      s := by
    refine Program.assures_bind (Program.assures_answered rfl (Program.assures_bind ?_))
    by_cases huser : plan.spec.principal.name ∈ s.users
    · exact Program.assures_refused (Server.answer_createUser.trans (if_pos huser))
        ⟨rfl, .inr ⟨rfl, rfl⟩⟩
    · exact Program.assures_answered (Server.answer_createUser.trans (if_neg huser)) rfl
  refine Program.assures_bind (Program.assures_bind ((assures_recovered hcreate).mono
    (fun action t ht => ?_) fun _ _ hf => hf))
  exact Program.assures_bind (Program.assures_say (Program.assures_done ht))

/-- A new collection has the indexes that it had when it was not there. -/
theorem keepsIndexes_create (h : s.collection? plan.database n = none) :
    plan.KeepsIndexes names s (s.putCollection plan.database n .empty) where
  collections := fun m hm => holds_put (k := s.identities) hm
  indexes := fun m _ name => by
    refine (view_put (k := s.identities)).trans ?_
    split
    · rename_i hmn
      rw [hmn, view, Server.view, Server.collection_of_none h]
    · rfl

theorem createCollection_ends : (plan.createCollection n).Assures (.alone (.faultless sight))
    (fun _ t => plan.KeepsIndexes (fun _ => True) s t ∧ plan.Holds t n)
    (fun e t => (plan.KeepsIndexes (fun _ => True) s t ∧ plan.Holds t n) ∧
      (False ∨ e.isDriver = true ∧ e.saysAlreadyExists = true)) s := by
  refine Program.assures_bind ?_
  by_cases hholds : (s.collection? plan.database n).isSome
  · exact Program.assures_refused (Server.answer_createCollection.trans (if_pos hholds))
      ⟨⟨.refl, hholds⟩, .inr ⟨rfl, rfl⟩⟩
  · refine Program.assures_answered (Server.answer_createCollection.trans (if_neg hholds))
      (Program.assures_done ⟨keepsIndexes_create (by simpa using hholds), ?_⟩)
    rw [Holds, Server.collection?_putCollection, if_pos rfl]
    rfl

/-- Without faults all collections are there in the end, whatever the listing hid, and the indexes are as
they were. -/
theorem ensureCollections_ends : plan.ensureCollections.Assures (.alone (.faultless sight))
    (fun _ t => plan.KeepsIndexes (fun _ => True) s t ∧
      ∀ n ∈ plan.spec.collectionNames, plan.Holds t n) (fun _ _ => False) s := by
  have hlist : (plan.guarded .collections
      (Program.perform (.listCollections plan.database))).Assures (.alone (.faultless sight))
      (fun (existing : List String) t => t = s ∧ ∀ m ∈ existing, plan.Holds s m)
      (fun _ _ => False) s := by
    refine assures_guarded (Program.assures_answered rfl ⟨rfl, fun m hm => ?_⟩)
    exact Server.mem_listed.1 (List.mem_filter.1 hm).1
  refine Program.assures_bind (hlist.mono (fun (existing : List String) t ht => ?_) fun _ _ hf => hf)
  obtain ⟨rfl, hexisting⟩ := ht
  let inv (before : List String) (_ : List Outcome) (u : Server) : Prop :=
    plan.KeepsIndexes (fun _ => True) t u ∧ ∀ n ∈ before, plan.Holds u n
  have hstart : inv [] [] t := ⟨.refl, nofun⟩
  refine Program.assures_each_with (fun before n after outcomes u _ hu => ?_) hstart
  have hnext {w : Server} (hw : plan.KeepsIndexes (fun _ => True) u w ∧ plan.Holds w n) :
      plan.KeepsIndexes (fun _ => True) t w ∧ ∀ m ∈ before ++ [n], plan.Holds w m := by
    refine ⟨hu.1.trans hw.1, fun m hm => ?_⟩
    rcases List.mem_append.1 hm with hm | hm
    · exact hw.1.collections m (hu.2 m hm)
    · rw [List.mem_singleton.1 hm]
      exact hw.2
  unfold ensureCollection
  split
  · rename_i hlisted
    have hholds := hexisting n (List.contains_iff_mem.1 hlisted)
    refine Program.assures_bind (Program.assures_say (Program.assures_done ?_))
    exact hnext ⟨.refl, hu.1.collections n hholds⟩
  · refine Program.assures_bind ((assures_recovered createCollection_ends).mono
      (fun action w hw => ?_) fun _ _ hf => hf)
    refine Program.assures_bind ?_
    cases action <;> exact Program.assures_say (Program.assures_done (hnext hw))

/-! ### Indexes that are free -/

/-- What was read under the name of an index is as it is declared, if anything was read. -/
def FreeIn (existing : Assoc IndexInfo) (j : IndexSpec) : Prop :=
  ∀ info, existing.lookup j.indexName = some info → j.matches? info = .ok true

variable {existing : Assoc IndexInfo} {i j : IndexSpec} {info : IndexInfo} {e : Failure}
  {done rest : List IndexSpec} {c : CollectionSpec}

/-- An index that is free is skipped or created, and the indexes of other collections stay as they are. -/
theorem ensureIndex_ends (hfree : FreeIn existing j) :
    (plan.ensureIndex n existing j).Assures (.alone (.faultless sight))
      (fun _ u => plan.KeepsIndexes (· ≠ n) t u) (fun _ _ => False) t := by
  unfold ensureIndex
  cases hl : existing.lookup j.indexName with
  | some info =>
    simp only [hfree info hl]
    exact Program.assures_bind (Program.assures_done (Program.assures_bind (Program.assures_say
      (Program.assures_done .refl))))
  | none =>
    have hmake : (plan.guarded .indexes (Program.perform (.createIndex plan.database n j))).Assures
        (.alone (.faultless sight)) (fun _ u => plan.KeepsIndexes (· ≠ n) t u)
        (fun _ _ => False) t :=
      assures_guarded (Program.assures_answered rfl ⟨fun m hm => holds_put (k := t.identities) hm,
        fun m hm name => (view_put (k := t.identities)).trans (if_neg hm)⟩)
    refine Program.assures_bind (hmake.mono (fun _ u hu => ?_) fun _ _ hf => hf)
    exact Program.assures_bind (Program.assures_say (Program.assures_done hu))

/-- The indexes of a collection that is there are read as they stand. -/
theorem lookup_existing (hholds : plan.Holds t n) (name : String) :
    (t.indexInformation plan.database n).lookup name = (plan.view t n name).reported :=
  Server.lookup_indexInformation hholds

theorem ensureCollectionIndexes_ends (hholds : plan.Holds t c.name)
    (hfree : ∀ j ∈ c.indexes, FreeIn (t.indexInformation plan.database c.name) j) :
    (plan.ensureCollectionIndexes c).Assures (.alone (.faultless sight))
      (fun _ u => plan.KeepsIndexes (· ≠ c.name) t u) (fun _ _ => False) t := by
  unfold ensureCollectionIndexes
  split
  · exact Program.assures_done .refl
  refine Program.assures_bind (Program.assures_answered rfl ?_)
  have hread : (plan.guarded .indexes (Program.perform (.indexInformation plan.database c.name))).Assures
      (.alone (.faultless sight))
      (fun existing u => existing = t.indexInformation plan.database c.name ∧ u = t)
      (fun _ _ => False) t := assures_guarded (Program.assures_answered rfl ⟨rfl, rfl⟩)
  refine Program.assures_bind (hread.mono (fun existing u hu => ?_) fun _ _ hf => hf)
  obtain ⟨rfl, rfl⟩ := hu
  let inv (_ : List IndexSpec) (_ : List Outcome) (w : Server) : Prop :=
    plan.KeepsIndexes (· ≠ c.name) u w
  have hstart : inv [] [] u := .refl
  refine Program.assures_each_with (fun before j after outcomes w hj hw => ?_) hstart
  exact (ensureIndex_ends (hfree j (by rw [hj]; simp))).mono (fun _ _ h => hw.trans h) fun _ _ hf => hf

/-! ### The index in conflict -/

/-- What an index that is not free comes to: the conflict, or the failure of the comparison. -/
def refusal (n : String) (i : IndexSpec) (info : IndexInfo) : Failure :=
  match i.matches? info with
  | .ok _ => indexConflict s!"{n}.{i.indexName}" i info
  | .error e => e

theorem run_ensureIndex_blocked (hl : existing.lookup i.indexName = some info)
    (hm : i.matches? info ≠ .ok true) : ((plan.ensureIndex n existing i).run sight t []).result
      = .error (refusal n i info) ∧ ((plan.ensureIndex n existing i).run sight t []).calls = [] := by
  simp only [ensureIndex, hl, refusal]
  cases hmatch : i.matches? info with
  | error e => exact ⟨rfl, rfl⟩
  | ok same =>
    cases same with
    | true => exact absurd hmatch hm
    | false => exact ⟨rfl, rfl⟩

theorem run_ensureIndex_free (hfree : FreeIn existing j) :
    (∃ o, ((plan.ensureIndex n existing j).run sight t []).result = .ok o) ∧
      ((plan.ensureIndex n existing j).run sight t []).calls =
        if (existing.lookup j.indexName).isNone then [.createIndex plan.database n j] else [] := by
  cases hl : existing.lookup j.indexName with
  | some info =>
    simp only [ensureIndex, hl, hfree info hl]
    exact ⟨⟨_, rfl⟩, rfl⟩
  | none =>
    simp only [ensureIndex, hl]
    exact ⟨⟨_, rfl⟩, rfl⟩

/-- The loop over the indexes of a collection creates those that are missing before the first one in
conflict, and ends there. -/
theorem run_each_ensureIndex (hdone : ∀ j ∈ done, FreeIn existing j)
    (hl : existing.lookup i.indexName = some info) (hm : i.matches? info ≠ .ok true) (t : Server) :
    ((Program.each (plan.ensureIndex n existing) (done ++ i :: rest)).run sight t []).result =
        .error (refusal n i info) ∧
      ((Program.each (plan.ensureIndex n existing) (done ++ i :: rest)).run sight t []).calls =
        (done.filter fun j => (existing.lookup j.indexName).isNone).map
          (.createIndex plan.database n) := by
  induction done generalizing t with
  | nil =>
    have hblocked : _ ∧ ((plan.ensureIndex n existing i).run sight t []).calls = [] :=
      run_ensureIndex_blocked hl hm
    obtain ⟨hresult, hcalls⟩ := Program.run_bind_of_error (f := fun o =>
      (Program.each (plan.ensureIndex n existing) rest).bind fun os => .done (o :: os)) hblocked.1
    exact ⟨hresult, hcalls.trans hblocked.2⟩
  | cons j done ih =>
    obtain ⟨hj, hdone⟩ := List.forall_mem_cons.1 hdone
    have hfree : _ ∧ ((plan.ensureIndex n existing j).run sight t []).calls = _ :=
      run_ensureIndex_free hj
    obtain ⟨⟨o, hresult⟩, hcalls⟩ := hfree
    obtain ⟨hend, hmore⟩ := ih hdone ((plan.ensureIndex n existing j).run sight t []).server
    obtain ⟨hsame, hfirst⟩ := Program.run_bind_of_ok (f := fun o =>
      (Program.each (plan.ensureIndex n existing) (done ++ i :: rest)).bind fun os => .done (o :: os))
      hresult
    obtain ⟨hend', hlater⟩ := Program.run_bind_of_error (f := fun os => .done (o :: os)) hend
    refine ⟨hsame.trans hend', hfirst.trans ?_⟩
    rw [hlater, hcalls, hmore, List.filter_cons]
    split <;> rfl

/-- The indexes of the collection are read, those that are missing before the one in conflict are
created, and that is all. -/
theorem ensureCollectionIndexes_halts (hindexes : c.indexes = done ++ i :: rest)
    (hdone : ∀ j ∈ done, FreeIn (t.indexInformation plan.database c.name) j)
    (hl : (t.indexInformation plan.database c.name).lookup i.indexName = some info)
    (hm : i.matches? info ≠ .ok true) :
    (plan.ensureCollectionIndexes c).HaltsWith sight t (refusal c.name i info)
      (.indexInformation plan.database c.name ::
        (done.filter fun j => ((t.indexInformation plan.database c.name).lookup j.indexName).isNone).map
          (.createIndex plan.database c.name)) := by
  unfold ensureCollectionIndexes
  rw [if_neg (by rw [hindexes]; simp)]
  have hlook : (Program.perform (.collection plan.database c.name)).Assures (.alone (.faultless sight))
      (fun _ u => u = t) (fun _ _ => False) t := Program.assures_answered rfl rfl
  refine Program.haltsWith_bind hlook fun _ u hu => ?_
  obtain rfl := hu
  have hread : ((plan.guarded .indexes
      (Program.perform (.indexInformation plan.database c.name))).run sight u []).result =
        .ok (u.indexInformation plan.database c.name) := rfl
  obtain ⟨hresult, hcalls⟩ := Program.run_bind_of_ok (f := fun existing =>
    Program.each (plan.ensureIndex c.name existing) c.indexes) hread
  obtain ⟨hend, hlast⟩ : _ ∧ ((Program.each (plan.ensureIndex c.name
      (u.indexInformation plan.database c.name)) c.indexes).run sight u []).calls = _ :=
    hindexes ▸ run_each_ensureIndex hdone hl hm u
  exact ⟨hresult.trans hend, ⟨[], (hcalls.trans (congrArg _ hlast)).symm⟩⟩

/-! ### The run -/

/-- Nothing is reported under the name of an index, or what is reported is as it is declared. -/
def Free (plan : Plan) (s : Server) (n : String) (j : IndexSpec) : Prop :=
  ∀ info, (plan.view s n j.indexName).reported = some info → j.matches? info = .ok true

theorem Free.freeIn (h : plan.Free s n j) (hholds : plan.Holds t n)
    (hview : ∀ name, plan.view t n name = plan.view s n name) :
    FreeIn (t.indexInformation plan.database n) j := by
  intro info hinfo
  rw [lookup_existing hholds, hview] at hinfo
  exact h info hinfo

/-- All indexes that are declared before this one are free. -/
structure Reaches (plan : Plan) (s : Server) (c : CollectionSpec) (done : List IndexSpec) (i : IndexSpec) :
    Prop where
  collections : ∃ before after, plan.spec.collections = before ++ c :: after ∧
    ∀ d ∈ before, ∀ j ∈ d.indexes, plan.Free s d.name j
  indexes : ∃ rest, c.indexes = done ++ i :: rest
  free : ∀ j ∈ done, plan.Free s c.name j

variable {before after : List CollectionSpec}

/-- The collections before the one of the conflict come to an end, and its indexes are as they were. -/
theorem each_ensureCollectionIndexes_ends (hnames : (before.map CollectionSpec.name).Nodup)
    (hholds : ∀ d ∈ before, plan.Holds s d.name)
    (hfree : ∀ d ∈ before, ∀ j ∈ d.indexes, plan.Free s d.name j) :
    (Program.each plan.ensureCollectionIndexes before).Assures (.alone (.faultless sight))
      (fun _ t => plan.KeepsIndexes (· ∉ before.map CollectionSpec.name) s t) (fun _ _ => False) s := by
  let inv (done : List CollectionSpec) (_ : List (List Outcome)) (t : Server) : Prop :=
    plan.KeepsIndexes (· ∉ done.map CollectionSpec.name) s t
  have hstart : inv [] [] s := .refl
  refine Program.assures_each_with (fun done d rest outcomes t hd ht => ?_) hstart
  have hmem : d ∈ before := by rw [hd]; simp
  have hnew : d.name ∉ done.map CollectionSpec.name := Program.new_of_nodup_map hnames hd
  have hholds' : plan.Holds t d.name := ht.collections _ (hholds d hmem)
  refine (ensureCollectionIndexes_ends hholds' fun j hj =>
    (hfree d hmem j hj).freeIn hholds' (ht.indexes _ hnew)).mono (fun _ u hu => ?_) fun _ _ hf => hf
  have hnames' : ∀ n, n ∉ (done ++ [d]).map CollectionSpec.name →
      n ∉ done.map CollectionSpec.name ∧ n ≠ d.name := by
    intro n hn
    simpa [not_or] using hn
  exact (ht.mono fun n hn => (hnames' n hn).1).trans (hu.mono fun n hn => (hnames' n hn).2)

/-- The last calls of a run that ends at an index of the collection: it reads the indexes, and creates
those that are missing before this one. -/
def lastCalls (plan : Plan) (s : Server) (c : CollectionSpec) (done : List IndexSpec) : List Call :=
  .indexInformation plan.database c.name ::
    (done.filter fun j => (plan.view s c.name j.indexName).reported.isNone).map
      (.createIndex plan.database c.name)

/-- A run without faults ends at the first index that is not free. -/
theorem provision_halts (now : Instant) (hv : plan.spec.Valid) (hreaches : plan.Reaches s c done i)
    (hinfo : (plan.view s c.name i.indexName).reported = some info)
    (hm : i.matches? info ≠ .ok true) :
    (plan.provision now).HaltsWith sight s (refusal c.name i info) (plan.lastCalls s c done) := by
  obtain ⟨before, after, hcollections, hbefore⟩ := hreaches.collections
  obtain ⟨rest, hindexes⟩ := hreaches.indexes
  have hnames : (before.map CollectionSpec.name).Nodup := by
    have hall := hv.collectionNames
    rw [SeedSpec.collectionNames, hcollections, List.map_append] at hall
    exact hall.of_append_left
  have hsay : (plan.tell s!"Provisioning database '{plan.database}'").Assures (.alone (.faultless sight))
      (fun _ t => t = s) (fun _ _ => False) s := Program.assures_say rfl
  have hlook (t : Server) : (Program.perform (.database plan.database)).Assures
      (.alone (.faultless sight)) (fun _ u => u = t) (fun _ _ => False) t :=
    Program.assures_answered rfl rfl
  refine Program.haltsWith_bind hsay fun _ s₀ hs₀ => ?_
  obtain rfl := hs₀
  refine Program.haltsWith_bind principalStep_ends fun _ t ht => ?_
  refine Program.haltsWith_bind (hlook t) fun _ t' ht' => ?_
  obtain rfl := ht'
  refine Program.haltsWith_bind ensureCollections_ends fun _ u hu => ?_
  -- all collections are there, with the indexes that they had at first
  have hkeeps : plan.KeepsIndexes (fun _ => True) s₀ u := (keepsIndexes_of_databases ht).trans hu.1
  have hholds (d : CollectionSpec) (hd : d ∈ plan.spec.collections) : plan.Holds u d.name :=
    hu.2 _ (List.mem_map_of_mem hd)
  have hfree {n : String} {j : IndexSpec} (hj : plan.Free s₀ n j) : plan.Free u n j := by
    intro info hinfo
    exact hj info (hkeeps.indexes n trivial _ ▸ hinfo)
  refine Program.HaltsWith.bind_left (Program.HaltsWith.bind_left ?_)
  rw [hcollections]
  refine Program.haltsWith_each (each_ensureCollectionIndexes_ends hnames
    (fun d hd => hholds d (by rw [hcollections]; simp [hd])) fun d hd j hj => hfree (hbefore d hd j hj))
    fun w hw => ?_
  have hnew : c.name ∉ before.map CollectionSpec.name :=
    Program.new_of_nodup_map hv.collectionNames hcollections
  have hthere : plan.Holds w c.name := hw.collections _ (hholds c (by rw [hcollections]; simp))
  have hview (name : String) : plan.view w c.name name = plan.view s₀ c.name name :=
    (hw.indexes _ hnew name).trans (hkeeps.indexes _ trivial name)
  have hexisting (name : String) : (w.indexInformation plan.database c.name).lookup name =
      (plan.view s₀ c.name name).reported := by
    rw [lookup_existing hthere, hview]
  have hhalts : (plan.ensureCollectionIndexes c).HaltsWith sight w (refusal c.name i info) _ :=
    ensureCollectionIndexes_halts hindexes (fun j hj => (hreaches.free j hj).freeIn hthere hview)
      ((hexisting _).trans hinfo) hm
  simpa only [hexisting, lastCalls] using hhalts

/-- **Conflicts of indexes.**  A comparison comes to an end just when all reported directions stand for
whole numbers; and when they are whole numbers, it accepts just the declared index.  So a run without faults
that reaches an index under whose name another one is stored, with whole numbers for directions, ends with
the conflict, in the step of the indexes, and asks for nothing after it.  A comparison that fails ends the
run with its own failure. -/
theorem index_conflicts_decided (i : IndexSpec) (info : IndexInfo) :
    ((∀ pair ∈ info.key.getD [], pair.length = 2) →
      ((∃ same, i.matches? info = .ok same) ↔
        ∀ direction ∈ info.directions, ∃ n, direction.toInteger = .ok n)) ∧
    (info.isWhole = true → ∃ same, i.matches? info = .ok same ∧ (same = true ↔ i.ReportedAs info)) ∧
    ∀ (plan : Plan) (now : Instant) (sight : Sight) (s : Server) (c : CollectionSpec)
      (done : List IndexSpec), plan.spec.Valid → plan.Reaches s c done i →
      (plan.view s c.name i.indexName).reported = some info →
      let run := (plan.provision now).run sight s []
      (info.isWhole = true → ¬ i.ReportedAs info →
        run.result = .error (indexConflict s!"{c.name}.{i.indexName}" i info) ∧
          plan.lastCalls s c done <:+ run.calls) ∧
      ∀ e, i.matches? info = .error e → run.result = .error e ∧ plan.lastCalls s c done <:+ run.calls := by
  refine ⟨IndexSpec.exists_matches?_iff, fun hwhole => ?_, ?_⟩
  · obtain ⟨same, hsame⟩ := i.exists_matches? hwhole
    refine ⟨same, hsame, ?_⟩
    rw [← IndexSpec.matches?_eq_true_iff hwhole, hsame]
    exact ⟨fun h => h ▸ rfl, Except.ok.inj⟩
  · intro plan now sight s c done hv hreaches hinfo run
    have hhalts (hm : i.matches? info ≠ .ok true) :
        run.result = .error (refusal c.name i info) ∧ plan.lastCalls s c done <:+ run.calls :=
      provision_halts now hv hreaches hinfo hm
    constructor
    · intro hwhole hother
      obtain ⟨same, hsame⟩ := i.exists_matches? hwhole
      have hm : i.matches? info ≠ .ok true := fun h => hother ((IndexSpec.matches?_eq_true_iff hwhole).1 h)
      have hrefusal : refusal c.name i info = indexConflict s!"{c.name}.{i.indexName}" i info := by
        rw [refusal, hsame]
      exact hrefusal ▸ hhalts hm
    · intro e he
      have hrefusal : refusal c.name i info = e := by rw [refusal, he]
      exact hrefusal ▸ hhalts (by rw [he]; nofun)

/-- The index on the e-mail address of users, with some direction. -/
def emailIndex (direction : Value) : IndexInfo :=
  ⟨some [[.str "email", direction]], some (.bool true), none⟩

/-- A server that has this index, and no other. -/
def emailServer (direction : Value) : Server :=
  ⟨[], [("app", [("users", ⟨[("email_1", emailIndex direction)], []⟩)])], 0⟩

/-- On this server a run comes to the index on the e-mail address, whatever its direction: only the one
on the name is declared before it, and that one is missing. -/
theorem reaches_emailServer (direction : Value) :
    builtIn.Reaches (emailServer direction)
      ⟨"users", [SeedSpec.fieldIndex "username" .ascending true false,
        SeedSpec.fieldIndex "email" .ascending true false,
        SeedSpec.fieldIndex "mobile" .ascending true true]⟩
      [SeedSpec.fieldIndex "username" .ascending true false]
      (SeedSpec.fieldIndex "email" .ascending true false) := by
  refine ⟨⟨[], _, rfl, nofun⟩, ⟨_, rfl⟩, fun j hj info hinfo => ?_⟩
  obtain rfl := List.mem_singleton.1 hj
  have hnone : (builtIn.view (emailServer direction) "users" "username_1").reported = none := by rfl
  rw [show (SeedSpec.fieldIndex "username" .ascending true false).indexName = "username_1" from rfl,
    hnone] at hinfo
  cases hinfo

/-- The run finds the index under the declared name. -/
theorem view_emailServer (direction : Value) :
    (builtIn.view (emailServer direction) "users" "email_1").reported = some (emailIndex direction) := by
  rfl

/-- An index that runs the other way, as `-1.0`, is refused.  The one before it is missing and is
created, and nothing comes after that. -/
theorem index_conflicts_decided_descending :
    let username := SeedSpec.fieldIndex "username" .ascending true false
    let email := SeedSpec.fieldIndex "email" .ascending true false
    let info := emailIndex (.float (.ofInt (-1)))
    let run := (builtIn.provision .epoch).run ⟨["users"], true⟩ (emailServer (.float (.ofInt (-1)))) []
    (∃ same, email.matches? info = .ok same ∧ (same = true ↔ email.ReportedAs info)) ∧
      run.result = .error (indexConflict "users.email_1" email info) ∧
      [.indexInformation "app" "users", .createIndex "app" "users" username] <:+ run.calls := by
  intro username email info run
  have hwhole : info.isWhole = true := by decide +kernel
  have hother : ¬ email.ReportedAs info := by
    intro h
    obtain ⟨⟨direction, hpair, hequal⟩, -⟩ := List.forall₂_cons.1 h.keys
    obtain rfl : .float (.ofInt (-1)) = direction := by simpa using hpair
    exact absurd hequal (by decide +kernel)
  obtain ⟨-, hdecides, hruns⟩ := index_conflicts_decided email info
  refine ⟨hdecides hwhole, ?_⟩
  exact (hruns builtIn .epoch ⟨["users"], true⟩ _ _ [username] (by decide +kernel) (reaches_emailServer _)
    (view_emailServer _)).1 hwhole hother

/-- A direction that is a text is not compared: the failure of reading it as a number is what comes of the
run.  And one and a half passes for an ascending direction. -/
theorem index_conflict_escapes :
    let email := SeedSpec.fieldIndex "email" .ascending true false
    let unread : Failure := .ofRuntime .value "invalid literal for int() with base 10: 'text'"
    let fraction := emailIndex (.float (.ofRatio false 3 2))
    email.matches? (emailIndex (.str "text")) = .error unread ∧
      ((builtIn.provision .epoch).run .clear (emailServer (.str "text")) []).result = .error unread ∧
      email.matches? fraction = .ok true ∧ ¬ email.ReportedAs fraction := by
  intro email unread fraction
  have hunread : email.matches? (emailIndex (.str "text")) = .error unread := by rfl
  have hfraction : email.matches? fraction = .ok true := by rfl
  refine ⟨hunread, ?_, hfraction, ?_⟩
  · have hvalid : builtIn.spec.Valid := by decide +kernel
    have hrefusal : refusal "users" email (emailIndex (.str "text")) = unread := by rw [refusal, hunread]
    rw [← hrefusal]
    exact (provision_halts .epoch hvalid (reaches_emailServer _) (view_emailServer _)
      (by rw [hunread]; nofun)).1
  · intro h
    obtain ⟨⟨direction, hpair, hequal⟩, -⟩ := List.forall₂_cons.1 h.keys
    obtain rfl : .float (.ofRatio false 3 2) = direction := by simpa using hpair
    exact absurd hequal (by decide +kernel)

end Plan

end Bringup
