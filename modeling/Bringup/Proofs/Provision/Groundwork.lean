import Bringup.Proofs.Provision.Conflict

/-!
# What a run without faults makes of collections and indexes

* `Plan.Founded` : the collections of some names were created where they were missing;
* `Plan.Built` : some declared indexes were created where nothing was reported under their names;
* `Plan.ensureCollections_founds`, `Plan.ensureIndexes_builds` : so it is after these steps, whatever the
  listing hid, and what is recorded of each object is told by the server before the step.

Both are said of sets of objects, and not of the order in which they are dealt with: no object has a part in
what becomes of another one.
-/

namespace Bringup

namespace Plan

variable (plan : Plan)

/-- The collections of these names were created where they were missing, and nothing else was done. -/
structure Founded (names : List String) (s t : Server) : Prop where
  users : t.users = s.users
  identities : t.identities = s.identities
  elsewhere : ∀ d, d ≠ plan.database → t.databases.lookup d = s.databases.lookup d
  collections : ∀ n, t.collection? plan.database n =
    if n ∈ names then some (s.collection plan.database n) else s.collection? plan.database n

/-- The indexes were created where nothing was reported under their names, and nothing else was done. -/
structure Built (places : List (String × IndexSpec)) (s t : Server) : Prop where
  users : t.users = s.users
  identities : t.identities = s.identities
  elsewhere : ∀ d, d ≠ plan.database → t.databases.lookup d = s.databases.lookup d
  collections : ∀ n, plan.Holds t n ↔ plan.Holds s n
  documents : ∀ n, t.documents plan.database n = s.documents plan.database n
  made : ∀ p ∈ places, (plan.view s p.1 p.2.indexName).reported = none →
    plan.view t p.1 p.2.indexName = ⟨some p.2.info, some p.2.info⟩
  kept : ∀ n name, (∀ p ∈ places, p.1 = n → p.2.indexName = name →
    (plan.view s n name).reported ≠ none) → plan.view t n name = plan.view s n name

/-- What is recorded of a collection: it is skipped if it is there. -/
def collectionOutcome (s : Server) (n : String) : Outcome :=
  ⟨.collections, n, if (s.collection? plan.database n).isSome then .skipped else .created⟩

/-- What is recorded of an index that is free: it is skipped if one is reported under its name. -/
def indexOutcome (s : Server) (p : String × IndexSpec) : Outcome :=
  ⟨.indexes, s!"{p.1}.{p.2.indexName}",
    if (plan.view s p.1 p.2.indexName).reported.isSome then .skipped else .created⟩

variable {plan : Plan} {sight : Sight} {names : List String} {places : List (String × IndexSpec)}
  {s t u : Server} {n : String} {p : String × IndexSpec}

/-! ### Collections -/

theorem founded_refl : plan.Founded [] s s :=
  ⟨rfl, rfl, fun _ _ => rfl, fun _ => (if_neg List.not_mem_nil).symm⟩

/-- A collection that is there founds itself. -/
theorem Founded.there (h : plan.Founded names s t) (hn : plan.Holds t n) :
    plan.Founded (names ++ [n]) s t where
  users := h.users
  identities := h.identities
  elsewhere := h.elsewhere
  collections := fun m => by
    rw [h.collections m]
    by_cases hm : m ∈ names
    · rw [if_pos hm, if_pos (List.mem_append_left _ hm)]
    · rw [if_neg hm]
      split <;> rename_i hmn
      · obtain rfl : m = n := by simpa [hm] using hmn
        obtain ⟨c, hc⟩ := Option.isSome_iff_exists.1 hn
        rw [h.collections m, if_neg hm] at hc
        rw [hc, Server.collection_of_some hc]
      · rfl

/-- A missing collection is created empty. -/
theorem Founded.create (h : plan.Founded names s t) (hn : t.collection? plan.database n = none) :
    plan.Founded (names ++ [n]) s (t.putCollection plan.database n .empty) where
  users := h.users
  identities := h.identities
  elsewhere := fun d hd => (Server.databases_putCollection hd).trans (h.elsewhere d hd)
  collections := fun m => by
    rw [Server.collection?_putCollection]
    by_cases hmn : m = n
    · subst hmn
      have hmissing := h.collections m
      rw [hn] at hmissing
      split at hmissing
      · cases hmissing
      · rw [if_pos rfl, if_pos (by simp), Server.collection_of_none hmissing.symm]
    · rw [if_neg hmn, h.collections m]
      simp [hmn]

theorem Founded.view_eq (h : plan.Founded names s t) (n name : String) :
    plan.view t n name = plan.view s n name := by
  have hcollection : t.collection plan.database n = s.collection plan.database n := by
    rw [Server.collection, h.collections n]
    split <;> rfl
  rw [view, Server.view, hcollection]
  rfl

theorem Founded.holds (h : plan.Founded names s t) (hn : n ∈ names) : plan.Holds t n := by
  rw [Holds, h.collections n, if_pos hn]
  rfl

/-- A missing collection is created; one that is there is refused, and the refusal says so. -/
theorem createCollection_makes : (plan.createCollection n).Assures (.alone (.faultless sight))
    (fun a u => (t.collection? plan.database n).isSome = false ∧ a = .created ∧
      u = t.putCollection plan.database n .empty)
    (fun e u => ((t.collection? plan.database n).isSome = true ∧ u = t) ∧
      (False ∨ e.isDriver = true ∧ e.saysAlreadyExists = true)) t := by
  refine Program.assures_bind ?_
  by_cases hholds : (t.collection? plan.database n).isSome
  · exact Program.assures_refused (Server.answer_createCollection.trans (if_pos hholds))
      ⟨⟨hholds, rfl⟩, .inr ⟨rfl, rfl⟩⟩
  · exact Program.assures_answered (Server.answer_createCollection.trans (if_neg hholds))
      (Program.assures_done ⟨by simpa using hholds, rfl, rfl⟩)

/-- Whether it was listed or not, a collection is skipped if it is there, and created if it is not. -/
theorem ensureCollection_makes {existing : List String} (hexisting : ∀ m ∈ existing, plan.Holds t m) :
    (plan.ensureCollection existing n).Assures (.alone (.faultless sight))
      (fun o u => o = plan.collectionOutcome t n ∧ u = if (t.collection? plan.database n).isSome then t
        else t.putCollection plan.database n .empty)
      (fun _ _ => False) t := by
  unfold ensureCollection
  by_cases hlisted : existing.contains n = true
  · rw [if_pos hlisted]
    have hholds : (t.collection? plan.database n).isSome := hexisting n (List.contains_iff_mem.1 hlisted)
    refine Program.assures_bind (Program.assures_say (Program.assures_done ⟨?_, (if_pos hholds).symm⟩))
    rw [collectionOutcome, if_pos hholds]
  · rw [if_neg hlisted]
    let made (a : Action) (u : Server) : Prop :=
      (⟨.collections, n, a⟩ : Outcome) = plan.collectionOutcome t n ∧
        u = if (t.collection? plan.database n).isSome then t
          else t.putCollection plan.database n .empty
    have haction : (plan.createCollection n).Assures (.alone (.faultless sight)) made
        (fun e u => made .skipped u ∧ (False ∨ e.isDriver = true ∧ e.saysAlreadyExists = true)) t := by
      refine createCollection_makes.mono ?_ ?_
      · rintro _ _ ⟨hmissing, rfl, rfl⟩
        simp [made, collectionOutcome, hmissing]
      · rintro e _ ⟨⟨hholds, rfl⟩, hsays⟩
        exact ⟨by simp [made, collectionOutcome, hholds], hsays⟩
    refine Program.assures_bind ((assures_recovered haction).mono (fun action u hu => ?_)
      fun _ _ hf => hf)
    refine Program.assures_bind ?_
    cases action <;> exact Program.assures_say (Program.assures_done hu)

/-- What is listed is there, whatever is hidden. -/
theorem assures_listing : (plan.guarded .collections
    (Program.perform (.listCollections plan.database))).Assures (.alone (.faultless sight))
    (fun (existing : List String) t => t = s ∧ ∀ m ∈ existing, plan.Holds s m)
    (fun _ _ => False) s := by
  refine assures_guarded (Program.assures_answered rfl ⟨rfl, fun m hm => ?_⟩)
  exact Server.mem_listed.1 (List.mem_filter.1 hm).1

/-- Whatever the listing hid, the collections are founded, and those that were there are skipped. -/
theorem ensureCollections_founds (hnames : plan.spec.collectionNames.Nodup) :
    plan.ensureCollections.Assures (.alone (.faultless sight))
      (fun os t => os = plan.spec.collectionNames.map (plan.collectionOutcome s) ∧
        plan.Founded plan.spec.collectionNames s t) (fun _ _ => False) s := by
  refine Program.assures_bind (assures_listing.mono (fun (existing : List String) t ht => ?_)
    fun _ _ hf => hf)
  obtain ⟨rfl, hexisting⟩ := ht
  let inv (before : List String) (os : List Outcome) (u : Server) : Prop :=
    os = before.map (plan.collectionOutcome t) ∧ plan.Founded before t u
  have hstart : inv [] [] t := ⟨rfl, founded_refl⟩
  refine Program.assures_each_with (fun before n after os u hn hu => ?_) hstart
  obtain ⟨rfl, hfounded⟩ := hu
  -- the collections before it have other names, and so it is there if it was there at first
  have hnew : n ∉ before := Program.new_of_nodup hnames hn
  have hsame : plan.collectionOutcome u n = plan.collectionOutcome t n := by
    rw [collectionOutcome, hfounded.collections n, if_neg hnew]
    rfl
  have hholds (m : String) (hm : m ∈ existing) : plan.Holds u m := by
    rw [Holds, hfounded.collections m]
    split
    · rfl
    · exact hexisting m hm
  refine (ensureCollection_makes hholds).mono ?_ fun _ _ hf => hf
  rintro o w ⟨rfl, rfl⟩
  refine ⟨by rw [hsame, List.map_append]; rfl, ?_⟩
  split <;> rename_i hthere
  · exact hfounded.there hthere
  · exact hfounded.create (by simpa using hthere)

/-! ### Indexes -/

theorem built_refl : plan.Built [] s s :=
  ⟨rfl, rfl, fun _ _ => rfl, fun _ => .rfl, fun _ => rfl, nofun, fun _ _ _ => rfl⟩

/-- An index under whose name something is reported is left as it is. -/
theorem Built.there (h : plan.Built places s t)
    (hp : (plan.view s p.1 p.2.indexName).reported ≠ none) : plan.Built (places ++ [p]) s t where
  users := h.users
  identities := h.identities
  elsewhere := h.elsewhere
  collections := h.collections
  documents := h.documents
  made := fun q hq hnone => by
    rcases List.mem_append.1 hq with hq | hq
    · exact h.made q hq hnone
    · obtain rfl := List.mem_singleton.1 hq
      exact absurd hnone hp
  kept := fun m name hall => h.kept m name fun q hq => hall q (List.mem_append_left _ hq)

/-- The collection has had no part in the indexes of other names. -/
theorem Built.view_of_new (h : plan.Built places s t) {name : String}
    (hnew : ∀ q ∈ places, q.1 = n → q.2.indexName ≠ name) : plan.view t n name = plan.view s n name :=
  h.kept n name fun q hq hn hname => absurd hname (hnew q hq hn)

/-- An index is made where none was reported: it is seen under its name, and nothing else is seen to change. -/
theorem view_make {name : String} (info : IndexInfo) (hnone : (plan.view t n name).reported = none)
    (m other : String) :
    plan.view (t.putCollection plan.database n ((t.collection plan.database n).withIndex name info)) m other =
      if m = n ∧ other = name then ⟨some info, some info⟩ else plan.view t m other := by
  have hstored : ((t.collection plan.database n).view name).stored = none :=
    Collection.stored_of_reported hnone
  refine Server.view_putCollection.trans ?_
  by_cases hm : m = n
  · subst hm
    rw [if_pos rfl, Collection.view_withIndex hstored]
    simp only [true_and]
    rfl
  · rw [if_neg hm, if_neg fun hboth => hm hboth.1]
    rfl

/-- An index under whose name nothing is reported is made. -/
theorem Built.make (h : plan.Built places s t) (hholds : plan.Holds t p.1)
    (hnew : ∀ q ∈ places, q.1 = p.1 → q.2.indexName ≠ p.2.indexName)
    (hp : (plan.view s p.1 p.2.indexName).reported = none) :
    plan.Built (places ++ [p]) s (t.putCollection plan.database p.1
      ((t.collection plan.database p.1).withIndex p.2.indexName p.2.info)) := by
  have hview := view_make p.2.info
    ((congrArg IndexView.reported (h.view_of_new hnew)).trans hp)
  exact {
    users := h.users
    identities := h.identities
    elsewhere := fun d hd => (Server.databases_putCollection hd).trans (h.elsewhere d hd)
    collections := fun m => by
      rw [← h.collections m, Holds, Holds, Server.collection?_putCollection]
      split <;> rename_i hm
      · rw [hm]
        exact iff_of_true rfl hholds
      · exact .rfl
    documents := fun m => by
      rw [← h.documents m, Server.documents_putCollection]
      split <;> rename_i hm
      · rw [hm]
        rfl
      · rfl
    made := fun q hq hnone => by
      rw [hview]
      rcases List.mem_append.1 hq with hq | hq
      · rw [if_neg fun hboth => hnew q hq hboth.1 hboth.2]
        exact h.made q hq hnone
      · obtain rfl := List.mem_singleton.1 hq
        rw [if_pos ⟨rfl, rfl⟩]
    kept := fun m name hall => by
      rw [hview, if_neg fun hboth => hall p (by simp) hboth.1.symm hboth.2.symm (by rw [hboth.1, hboth.2, hp])]
      exact h.kept m name fun q hq => hall q (List.mem_append_left _ hq) }

/-- What an index comes to: it is created if nothing was read under its name, skipped if what was read is as
it is declared, and else refused. -/
theorem ensureIndex_builds {existing : Assoc IndexInfo} {j : IndexSpec} :
    (plan.ensureIndex n existing j).Assures (.alone (.faultless sight))
      (fun o u => FreeIn existing j ∧
        o = ⟨.indexes, s!"{n}.{j.indexName}",
          if (existing.lookup j.indexName).isSome then .skipped else .created⟩ ∧
        u = if (existing.lookup j.indexName).isSome then t
          else t.putCollection plan.database n
            ((t.collection plan.database n).withIndex j.indexName j.info))
      (fun e u => u = t ∧ ∃ info, existing.lookup j.indexName = some info ∧ j.matches? info ≠ .ok true ∧
        e = refusal n j info) t := by
  unfold ensureIndex
  cases hl : existing.lookup j.indexName with
  | some info =>
    have hrefused (hm : j.matches? info ≠ .ok true) : t = t ∧ ∃ info', some info = some info' ∧
        j.matches? info' ≠ .ok true ∧ refusal n j info = refusal n j info' :=
      ⟨rfl, info, rfl, hm, rfl⟩
    cases hm : j.matches? info with
    | error e =>
      rw [refusal, hm] at hrefused
      simp only [hm]
      exact Program.assures_bind (Program.assures_fail (hrefused (by simp)))
    | ok same =>
      simp only [hm]
      refine Program.assures_bind (Program.assures_done ?_)
      cases same with
      | true =>
        have hfree : FreeIn existing j := fun info' hinfo => by
          obtain rfl := Option.some.inj (hl.symm.trans hinfo)
          exact hm
        exact Program.assures_bind (Program.assures_say (Program.assures_done ⟨hfree, rfl, rfl⟩))
      | false =>
        rw [refusal, hm] at hrefused
        exact Program.assures_bind (Program.assures_say (Program.assures_fail (hrefused (by simp))))
  | none =>
    have hfree : FreeIn existing j := fun info hinfo => by cases hl.symm.trans hinfo
    have hmake : (plan.guarded .indexes (Program.perform (.createIndex plan.database n j))).Assures
        (.alone (.faultless sight)) (fun _ u => u = t.putCollection plan.database n
          ((t.collection plan.database n).withIndex j.indexName j.info)) (fun _ _ => False) t :=
      assures_guarded (Program.assures_answered rfl rfl)
    refine Program.assures_bind (hmake.mono (fun _ u hu => ?_) fun _ _ hf => hf.elim)
    exact Program.assures_bind (Program.assures_say (Program.assures_done ⟨hfree, rfl, hu⟩))

/-- Some of the declared indexes were dealt with: all of them are free, and they were built. -/
structure Progress (plan : Plan) (s : Server) (done : List (String × IndexSpec)) (os : List Outcome)
    (t : Server) : Prop where
  built : plan.Built done s t
  outcomes : os = done.map (plan.indexOutcome s)
  free : ∀ p ∈ done, plan.Free s p.1 p.2

/-- A declared index is not free, and this is its refusal. -/
def Refused (plan : Plan) (s : Server) (e : Failure) : Prop :=
  ∃ p ∈ plan.spec.places, ∃ info, (plan.view s p.1 p.2.indexName).reported = some info ∧
    p.2.matches? info ≠ .ok true ∧ e = refusal p.1 p.2 info

/-- Some indexes were built until one was refused. -/
def Stuck (plan : Plan) (s : Server) (e : Failure) (t : Server) : Prop :=
  plan.Refused s e ∧ ∃ done, plan.Built done s t

/-- The declared indexes of some collections, each with its collection. -/
def placesOf (collections : List CollectionSpec) : List (String × IndexSpec) :=
  collections.flatMap fun c => c.indexes.map fun i => (c.name, i)

variable {e : Failure} {os : List Outcome} {before after : List CollectionSpec} {c : CollectionSpec}
  {done rest : List IndexSpec} {i : IndexSpec}

/-- What is refused goes by what is reported. -/
theorem Refused.of_view (h : plan.Refused t e) (hview : ∀ n name, plan.view t n name = plan.view s n name) :
    plan.Refused s e := by
  obtain ⟨p, hp, info, hinfo, hrest⟩ := h
  exact ⟨p, hp, info, by rw [← hview, hinfo], hrest⟩

theorem placesOf_concat : placesOf (before ++ [c]) =
    placesOf before ++ c.indexes.map fun i => (c.name, i) := by
  rw [placesOf, List.flatMap_append, List.flatMap_singleton]
  rfl

/-- Of the indexes that are declared before one, none has its collection and its name. -/
theorem new_of_split (hv : plan.spec.Valid) (hc : plan.spec.collections = before ++ c :: after)
    (hi : c.indexes = done ++ i :: rest) :
    ∀ q ∈ placesOf before ++ done.map fun j => (c.name, j),
      q.1 = c.name → q.2.indexName ≠ i.indexName := by
  obtain ⟨later, hplaces⟩ := SeedSpec.places_eq_of_split hc hi
  rintro ⟨m, j⟩ hq hm hname
  obtain rfl : m = c.name := hm
  have hboth : (c.name, j) ∈ plan.spec.places ∧ (c.name, i) ∈ plan.spec.places := by
    rw [hplaces]
    exact ⟨List.mem_append_left _ hq, by simp⟩
  obtain rfl := hv.index_unique hboth.1 hboth.2 hname
  exact Program.new_of_nodup hv.places_nodup hplaces hq

/-- One more index makes progress, or it is refused. -/
theorem ensureIndex_progress {existing : Assoc IndexInfo} (h : plan.Progress s places os t)
    (hholds : plan.Holds s n) (hplace : (n, i) ∈ plan.spec.places)
    (hnew : ∀ q ∈ places, q.1 = n → q.2.indexName ≠ i.indexName)
    (hread : existing.lookup i.indexName = (plan.view s n i.indexName).reported) :
    (plan.ensureIndex n existing i).Assures (.alone (.faultless sight))
      (fun o u => plan.Progress s (places ++ [(n, i)]) (os ++ [o]) u) (plan.Stuck s) t := by
  refine ensureIndex_builds.mono ?_ ?_
  · rintro o u ⟨hfree, rfl, rfl⟩
    have hbuilt : plan.Built (places ++ [(n, i)]) s (if (existing.lookup i.indexName).isSome then t
        else t.putCollection plan.database n
          ((t.collection plan.database n).withIndex i.indexName i.info)) := by
      rw [hread]
      cases hreported : (plan.view s n i.indexName).reported with
      | some info => exact h.built.there (by simp [hreported])
      | none => exact h.built.make ((h.built.collections n).2 hholds) hnew hreported
    refine ⟨hbuilt, ?_, fun q hq => ?_⟩
    · rw [h.outcomes, List.map_append, hread]
      rfl
    · rcases List.mem_append.1 hq with hq | hq
      · exact h.free q hq
      · obtain rfl := List.mem_singleton.1 hq
        exact fun info hinfo => hfree info (hread.trans hinfo)
  · rintro e u ⟨rfl, info, hinfo, hm, rfl⟩
    exact ⟨⟨(n, i), hplace, info, hread.symm.trans hinfo, hm, rfl⟩, places, h.built⟩

theorem ensureCollectionIndexes_progress (hv : plan.spec.Valid)
    (hc : plan.spec.collections = before ++ c :: after) (hholds : plan.Holds s c.name)
    (h : plan.Progress s (placesOf before) os t) :
    (plan.ensureCollectionIndexes c).Assures (.alone (.faultless sight))
      (fun os' u => plan.Progress s (placesOf (before ++ [c])) (os ++ os') u)
      (plan.Stuck s) t := by
  rw [placesOf_concat]
  unfold ensureCollectionIndexes
  split
  · rename_i hempty
    rw [List.isEmpty_iff.1 hempty, List.map_nil, List.append_nil]
    exact Program.assures_done (by rwa [List.append_nil])
  refine Program.assures_bind (Program.assures_answered rfl ?_)
  have hread : (plan.guarded .indexes (Program.perform (.indexInformation plan.database c.name))).Assures
      (.alone (.faultless sight))
      (fun existing u => existing = t.indexInformation plan.database c.name ∧ u = t)
      (fun _ _ => False) t := assures_guarded (Program.assures_answered rfl ⟨rfl, rfl⟩)
  refine Program.assures_bind (hread.mono (fun existing u hu => ?_) fun _ _ hf => hf.elim)
  obtain ⟨rfl, rfl⟩ := hu
  let inv (done : List IndexSpec) (os' : List Outcome) (w : Server) : Prop :=
    plan.Progress s (placesOf before ++ done.map fun i => (c.name, i)) (os ++ os') w
  have hstart : inv [] [] u := by
    change plan.Progress s (placesOf before ++ []) (os ++ []) u
    rwa [List.append_nil, List.append_nil]
  refine Program.assures_each_with (fun done i rest os' w hi hw => ?_) hstart
  have hnew := new_of_split hv hc hi
  have hplace : (c.name, i) ∈ plan.spec.places :=
    SeedSpec.mem_places.2 ⟨c, by rw [hc]; simp, rfl, by rw [hi]; simp⟩
  -- the indexes of the other collections have had no part in what was read
  have hlookup : (u.indexInformation plan.database c.name).lookup i.indexName =
      (plan.view s c.name i.indexName).reported := by
    rw [lookup_existing ((h.built.collections _).2 hholds),
      h.built.view_of_new fun q hq => hnew q (List.mem_append_left _ hq)]
  refine (ensureIndex_progress hw hholds hplace hnew hlookup).mono (fun o w' hw' => ?_) fun _ _ he => he
  change plan.Progress s (placesOf before ++ (done ++ [i]).map fun i => (c.name, i)) (os ++ (os' ++ [o])) w'
  rw [List.map_append, ← List.append_assoc, ← List.append_assoc]
  exact hw'

/-- The declared indexes are built when all of them are free, and those that were reported are skipped.
Else one that is not free is refused. -/
theorem ensureIndexes_builds (hv : plan.spec.Valid)
    (hholds : ∀ c ∈ plan.spec.collections, plan.Holds s c.name) :
    plan.ensureIndexes.Assures (.alone (.faultless sight))
      (fun os t => plan.Progress s plan.spec.places os t) (plan.Stuck s) s := by
  let inv (before : List CollectionSpec) (oss : List (List Outcome)) (t : Server) : Prop :=
    plan.Progress s (placesOf before) oss.flatten t
  have hstart : inv [] [] s := ⟨built_refl, rfl, nofun⟩
  have hloop : (Program.each plan.ensureCollectionIndexes plan.spec.collections).Assures
      (.alone (.faultless sight)) (fun oss t => inv plan.spec.collections oss t)
      (plan.Stuck s) s := by
    refine Program.assures_each_with (fun before c after oss t hc ht => ?_) hstart
    refine (ensureCollectionIndexes_progress hv hc (hholds c (by rw [hc]; simp)) ht).mono
      (fun os u hu => ?_) fun _ _ he => he
    change plan.Progress s (placesOf (before ++ [c])) (oss ++ [os]).flatten u
    rw [List.flatten_append, List.flatten_singleton]
    exact hu
  exact Program.assures_bind (hloop.mono (fun oss t ht => Program.assures_done ht) fun _ _ he => he)

end Plan

end Bringup
