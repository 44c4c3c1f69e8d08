import Bringup.Proofs.Provision.Revision
import Bringup.Proofs.Server.Store

/-!
# Where runs of a plan can lead

* `Plan.Indexed`, `Plan.Due` : a declared index is there, and all that are declared before it are;
* `Plan.Furnished`, `Plan.Complete` : the user and the collections are there, and everything is;
* `Plan.Grows` : nothing that the plan wants is lost from one server to another;
* `Undertaking` : what runs of a plan set out from; `Undertaking.Reach` : the servers that they can
  reach, however many there are, wherever they end, and whatever they do not see;
* `Undertaking.Replaces`, `Reach.put` : what a run may put in the place of a declared collection;
* `Reach.addUser`, `Reach.addCollection`, `Reach.addIndex`, `Reach.addRole`, `Reach.reviseRole` : every
  change that a run makes stays among these servers and loses nothing.

A reached server is described from the first one, so that it does not matter how many runs came between.
-/

namespace Bringup

namespace Plan

variable (plan : Plan)

/-- The role documents of a server. -/
def roleDocuments (s : Server) : List Fields := s.documents plan.database rolesCollection

/-- What stands under the name of an index. -/
def view (s : Server) (n name : String) : IndexView := s.view plan.database n name

/-- The collection is there. -/
def Holds (s : Server) (n : String) : Prop := (s.collection? plan.database n).isSome

/-- A declared index is reported of its collection as it is declared. -/
def Indexed (s : Server) (p : String × IndexSpec) : Prop :=
  plan.Holds s p.1 ∧ ∃ info, (plan.view s p.1 p.2.indexName).reported = some info ∧
    p.2.matches? info = .ok true

/-- The index is declared, and all that are declared before it are there. -/
def Due (s : Server) (p : String × IndexSpec) : Prop :=
  ∃ before after, plan.spec.places = before ++ p :: after ∧ ∀ q ∈ before, plan.Indexed s q

/-- Nothing that the plan wants is lost. -/
structure Grows (s t : Server) : Prop where
  users : s.users ⊆ t.users
  collections : ∀ n, plan.Holds s n → plan.Holds t n
  indexes : ∀ p ∈ plan.spec.places, plan.Indexed s p → plan.Indexed t p
  present : ∀ r ∈ plan.seeds, Present (plan.roleDocuments s) r → Present (plan.roleDocuments t) r
  settled : ∀ r ∈ plan.seeds,
    plan.Settled (plan.roleDocuments s) r → plan.Settled (plan.roleDocuments t) r

/-- The user is there, unless it is skipped. -/
def HasUser (s : Server) : Prop :=
  plan.skipPrincipal = false → plan.spec.principal.name ∈ s.users

/-- The user and the collections are there. -/
structure Furnished (s : Server) : Prop where
  user : plan.HasUser s
  collections : ∀ n ∈ plan.spec.collectionNames, plan.Holds s n

/-- Everything is there. -/
structure Complete (s : Server) : Prop extends plan.Furnished s where
  indexes : ∀ p ∈ plan.spec.places, plan.Indexed s p
  roles : ∀ r ∈ plan.seeds, plan.Settled (plan.roleDocuments s) r

variable {plan} {s t u : Server} {p : String × IndexSpec}

theorem Grows.refl : plan.Grows s s :=
  ⟨fun _ h => h, fun _ h => h, fun _ _ h => h, fun _ _ h => h, fun _ _ h => h⟩

theorem Grows.trans (h : plan.Grows s t) (h' : plan.Grows t u) : plan.Grows s u where
  users := fun _ hu => h'.users (h.users hu)
  collections := fun n hn => h'.collections n (h.collections n hn)
  indexes := fun p hp hi => h'.indexes p hp (h.indexes p hp hi)
  present := fun r hr hp => h'.present r hr (h.present r hr hp)
  settled := fun r hr hs => h'.settled r hr (h.settled r hr hs)

theorem HasUser.mono (h : plan.HasUser s) (hg : plan.Grows s t) : plan.HasUser t :=
  fun hskip => hg.users (h hskip)

theorem Furnished.mono (h : plan.Furnished s) (hg : plan.Grows s t) : plan.Furnished t :=
  ⟨h.user.mono hg, fun n hn => hg.collections n (h.collections n hn)⟩

theorem Complete.mono (h : plan.Complete s) (hg : plan.Grows s t) : plan.Complete t :=
  ⟨h.toFurnished.mono hg, fun p hp => hg.indexes p hp (h.indexes p hp),
    fun r hr => hg.settled r hr (h.roles r hr)⟩

theorem Due.mem (h : plan.Due s p) : p ∈ plan.spec.places := by
  obtain ⟨before, after, heq, -⟩ := h
  rw [heq]
  simp

theorem Due.mono (h : plan.Due s p) (hg : plan.Grows s t) : plan.Due t p := by
  obtain ⟨before, after, heq, hall⟩ := h
  refine ⟨before, after, heq, fun q hq => hg.indexes q ?_ (hall q hq)⟩
  rw [heq]
  exact List.mem_append_left _ hq

/-- A declared index is due when those of the collections before its own are there, and those before it
in its own. -/
theorem due_of_split {before after : List CollectionSpec} {c : CollectionSpec}
    {done rest : List IndexSpec} {i : IndexSpec}
    (hcollections : plan.spec.collections = before ++ c :: after)
    (hindexes : c.indexes = done ++ i :: rest)
    (hbefore : ∀ d ∈ before, ∀ j ∈ d.indexes, plan.Indexed s (d.name, j))
    (hdone : ∀ j ∈ done, plan.Indexed s (c.name, j)) : plan.Due s (c.name, i) := by
  obtain ⟨later, hplaces⟩ := SeedSpec.places_eq_of_split hcollections hindexes
  refine ⟨_, later, hplaces, fun q hq => ?_⟩
  rcases List.mem_append.1 hq with hq | hq
  · obtain ⟨d, hd, hq⟩ := List.mem_flatMap.1 hq
    obtain ⟨j, hj, rfl⟩ := List.mem_map.1 hq
    exact hbefore d hd j hj
  · obtain ⟨j, hj, rfl⟩ := List.mem_map.1 hq
    exact hdone j hj

/-! ### A collection is put back -/

/-- The server after a collection is put back, when `k` identities have been given out. -/
def put (plan : Plan) (s : Server) (n : String) (c : Collection) (k : Nat) : Server :=
  { s.putCollection plan.database n c with identities := k }

variable {n m name : String} {c : Collection} {k : Nat}

theorem collection?_put : (plan.put s n c k).collection? plan.database m =
    if m = n then some c else s.collection? plan.database m := Server.collection?_putCollection

theorem view_put : plan.view (plan.put s n c k) m name =
    if m = n then c.view name else plan.view s m name := Server.view_putCollection

theorem documents_put : (plan.put s n c k).documents plan.database m =
    if m = n then c.documents else s.documents plan.database m := Server.documents_putCollection

theorem holds_put (h : plan.Holds s m) : plan.Holds (plan.put s n c k) m := by
  rw [Holds, collection?_put]
  split
  · rfl
  · exact h

end Plan

/-- What runs of a plan set out from: the server before all of them, and the times that they may read
from their clocks.  It is `steady` if an index that the server reports is never made again. -/
structure Undertaking where
  plan : Plan
  clock : Instant → Prop
  steady : Prop
  origin : Server

namespace Undertaking

variable (U : Undertaking)

/-- The index may be made: it is due, and it was not there at first. -/
structure New (s : Server) (n : String) (i : IndexSpec) : Prop where
  due : U.plan.Due s (n, i)
  stored : (U.plan.view U.origin n i.indexName).stored = none
  reported : U.steady → (U.plan.view U.origin n i.indexName).reported = none

/-- Nothing was made under the name of an index, or one that may be made. -/
def Kept (s : Server) (n name : String) (v : IndexView) : Prop :=
  v = U.plan.view U.origin n name ∨
    ∃ i, i.indexName = name ∧ U.New s n i ∧ v = ⟨some i.info, some i.info⟩

/-- The server is one to which runs of the plan can lead. -/
structure Reach (s : Server) : Prop where
  users : s.users = U.origin.users ∨ U.plan.skipPrincipal = false ∧
    U.plan.spec.principal.name ∉ U.origin.users ∧
    s.users = U.origin.users ++ [U.plan.spec.principal.name]
  elsewhere : ∀ d, d ≠ U.plan.database → s.databases.lookup d = U.origin.databases.lookup d
  undeclared : ∀ n, n ∉ U.plan.spec.collectionNames →
    s.collection? U.plan.database n = U.origin.collection? U.plan.database n
  collections : ∀ n, U.plan.Holds U.origin n → U.plan.Holds s n
  indexes : ∀ n name, U.Kept s n name (U.plan.view s n name)
  documents : ∀ n, n ≠ rolesCollection →
    s.documents U.plan.database n = U.origin.documents U.plan.database n
  roles : U.plan.Revised U.clock U.origin.identities (U.plan.roleDocuments U.origin)
    (U.plan.roleDocuments s)
  seeded : U.plan.roleDocuments s ≠ U.plan.roleDocuments U.origin →
    ∀ p ∈ U.plan.spec.places, U.plan.Indexed s p
  identities : U.origin.identities ≤ s.identities

/-- A step stays among the servers that can be reached, and loses nothing. -/
def Moves (s t : Server) : Prop := U.Reach s → U.Reach t ∧ U.plan.Grows s t

variable {U} {s t u : Server} {n name : String} {i : IndexSpec} {v : IndexView}

theorem New.mono (h : U.New s n i) (hg : U.plan.Grows s t) : U.New t n i :=
  ⟨h.due.mono hg, h.stored, h.reported⟩

theorem Kept.mono (h : U.Kept s n name v) (hg : U.plan.Grows s t) : U.Kept t n name v := by
  rcases h with rfl | ⟨i, hi, hnew, rfl⟩
  · exact .inl rfl
  · exact .inr ⟨i, hi, hnew.mono hg, rfl⟩

theorem moves_refl : U.Moves s s := fun h => ⟨h, .refl⟩

theorem Moves.trans (h : U.Moves s t) (h' : U.Moves t u) : U.Moves s u := by
  intro hs
  obtain ⟨ht, hst⟩ := h hs
  obtain ⟨hu, htu⟩ := h' ht
  exact ⟨hu, hst.trans htu⟩

/-- Documents that no run has touched. -/
theorem revised_refl {plan : Plan} {clock : Instant → Prop} {k : Nat} {documents : List Fields} :
    plan.Revised clock k documents documents := by
  -- no document is revised, and none is inserted
  refine ⟨fun _ => none, [], [], fun _ _ h => (by cases h), List.nil_prefix, .nil, ?_⟩
  rw [List.append_nil]
  refine (List.map_id'' (fun d => ?_) documents).symm
  unfold Plan.revise
  split
  · split <;> rfl
  · rfl

theorem reach_origin : U.Reach U.origin where
  users := .inl rfl
  elsewhere := fun _ _ => rfl
  undeclared := fun _ _ => rfl
  collections := fun _ h => h
  indexes := fun _ _ => .inl rfl
  documents := fun _ _ => rfl
  roles := revised_refl
  seeded := fun h => absurd rfl h
  identities := Nat.le_refl _

/-! ### Collections that are put back -/

/-- Documents that a run may leave of the roles: they come from the older ones, no role loses its
document, and all indexes are there. -/
structure Writes (U : Undertaking) (s : Server) (documents : List Fields) : Prop where
  indexed : ∀ p ∈ U.plan.spec.places, U.plan.Indexed s p
  revised : U.plan.Revised U.clock U.origin.identities (U.plan.roleDocuments U.origin) documents
  kept : ∀ r ∈ U.plan.seeds,
    (Plan.Present (U.plan.roleDocuments s) r → Plan.Present documents r) ∧
      (U.plan.Settled (U.plan.roleDocuments s) r → U.plan.Settled documents r)

/-- What a run may put in the place of a declared collection. -/
structure Replaces (U : Undertaking) (s : Server) (n : String) (c : Collection) : Prop where
  declared : n ∈ U.plan.spec.collectionNames
  indexes : ∀ name, c.view name = U.plan.view s n name ∨
    ∃ i, i.indexName = name ∧ U.New s n i ∧ c.view name = ⟨some i.info, some i.info⟩
  documents : c.documents = s.documents U.plan.database n ∨
    n = rolesCollection ∧ U.Writes s c.documents

namespace Replaces

variable {c : Collection} {k : Nat}

/-- An index that is there stays as it is, or is made once more as it is declared. -/
theorem indexed_put (h : U.Replaces s n c) (hv : U.plan.spec.Valid) {p : String × IndexSpec}
    (hp : p ∈ U.plan.spec.places) (hi : U.plan.Indexed s p) :
    U.plan.Indexed (U.plan.put s n c k) p := by
  obtain ⟨m, j⟩ := p
  obtain ⟨hm, info, hinfo, hmatch⟩ := hi
  refine ⟨Plan.holds_put hm, ?_⟩
  rw [Plan.view_put]
  split
  · rename_i hmn
    subst hmn
    rcases h.indexes j.indexName with heq | ⟨i, hi, hnew, heq⟩
    · exact ⟨info, by rw [heq]; exact hinfo, hmatch⟩
    · obtain rfl := hv.index_unique hnew.due.mem hp hi
      exact ⟨i.info, by rw [heq], IndexSpec.matches?_info⟩
  · exact ⟨info, hinfo, hmatch⟩

/-- The role documents remain, or they are written. -/
theorem roleDocuments_put (h : U.Replaces s n c) :
    U.plan.roleDocuments (U.plan.put s n c k) = U.plan.roleDocuments s ∨
      U.Writes s (U.plan.roleDocuments (U.plan.put s n c k)) := by
  rw [Plan.roleDocuments, Plan.documents_put]
  split
  · rename_i hmn
    subst hmn
    rcases h.documents with hsame | ⟨-, hwrites⟩
    · exact .inl hsame
    · exact .inr hwrites
  · exact .inl rfl

theorem grows (h : U.Replaces s n c) (hv : U.plan.spec.Valid) :
    U.plan.Grows s (U.plan.put s n c k) where
  users := fun _ hu => hu
  collections := fun _ hm => Plan.holds_put hm
  indexes := fun _ hp hi => h.indexed_put hv hp hi
  present := fun r hr hp => by
    rcases h.roleDocuments_put with heq | hwrites
    · rw [heq]
      exact hp
    · exact (hwrites.kept r hr).1 hp
  settled := fun r hr hs => by
    rcases h.roleDocuments_put with heq | hwrites
    · rw [heq]
      exact hs
    · exact (hwrites.kept r hr).2 hs

end Replaces

namespace Reach

variable {c : Collection}

/-! ### What is found under the name of a declared index -/

/-- Under the name of a declared index is what was there at first, or the declared index. -/
theorem view_place (h : U.Reach s) (hv : U.plan.spec.Valid) (hi : (n, i) ∈ U.plan.spec.places) :
    U.plan.view s n i.indexName = U.plan.view U.origin n i.indexName ∨
      U.New s n i ∧ U.plan.view s n i.indexName = ⟨some i.info, some i.info⟩ := by
  rcases h.indexes n i.indexName with heq | ⟨j, hj, hnew, heq⟩
  · exact .inl heq
  · obtain rfl := hv.index_unique hnew.due.mem hi hj
    exact .inr ⟨hnew, heq⟩

/-! ### The changes -/

/-- The user of the plan is added. -/
theorem addUser (h : U.Reach s) (hskip : U.plan.skipPrincipal = false)
    (hnew : U.plan.spec.principal.name ∉ s.users) :
    let t := { s with users := s.users ++ [U.plan.spec.principal.name] }
    U.Reach t ∧ U.plan.Grows s t := by
  have husers : s.users = U.origin.users := by
    rcases h.users with heq | ⟨-, -, heq⟩
    · exact heq
    · exact absurd (by rw [heq]; simp) hnew
  intro t
  have hg : U.plan.Grows s t :=
    ⟨List.subset_append_left _ _, fun _ h => h, fun _ _ h => h, fun _ _ h => h, fun _ _ h => h⟩
  exact ⟨⟨.inr ⟨hskip, husers ▸ hnew, by rw [← husers]⟩, h.elsewhere, h.undeclared, h.collections,
    fun n name => (h.indexes n name).mono hg, h.documents, h.roles, h.seeded, h.identities⟩, hg⟩

/-- A declared collection is put back with indexes that may be made or documents that may be written.
The other changes are cases of this one. -/
theorem put (h : U.Reach s) (hv : U.plan.spec.Valid) (hc : U.Replaces s n c) {k : Nat}
    (hk : s.identities ≤ k) :
    U.Reach (U.plan.put s n c k) ∧ U.plan.Grows s (U.plan.put s n c k) := by
  have hgrows : U.plan.Grows s (U.plan.put s n c k) := hc.grows hv
  refine ⟨?_, hgrows⟩
  -- each field is about one part of the server, and the collection `n` is all that has changed
  constructor
  case users => exact h.users
  case elsewhere =>
    intro d hd
    exact (Server.databases_putCollection hd).trans (h.elsewhere d hd)
  case undeclared =>
    intro m hm
    have hmn : m ≠ n := by
      rintro rfl
      exact hm hc.declared
    rw [Plan.collection?_put, if_neg hmn]
    exact h.undeclared m hm
  case collections => exact fun m hm => hgrows.collections m (h.collections m hm)
  case indexes =>
    intro m name
    rw [Plan.view_put]
    split
    · rename_i hmn
      subst hmn
      rcases hc.indexes name with heq | ⟨i, hi, hnew, heq⟩ <;> rw [heq]
      · exact (h.indexes m name).mono hgrows
      · exact .inr ⟨i, hi, hnew.mono hgrows, rfl⟩
    · exact (h.indexes m name).mono hgrows
  case documents =>
    intro m hm
    rw [Plan.documents_put]
    split
    · rename_i hmn
      subst hmn
      rcases hc.documents with hsame | ⟨hrole, -⟩
      · rw [hsame]
        exact h.documents m hm
      · exact absurd hrole hm
    · exact h.documents m hm
  case roles =>
    rcases hc.roleDocuments_put with heq | hwrites
    · rw [heq]
      exact h.roles
    · exact hwrites.revised
  case seeded =>
    intro hne p hp
    rcases hc.roleDocuments_put with heq | hwrites
    · rw [heq] at hne
      exact hgrows.indexes p hp (h.seeded hne p hp)
    · exact hgrows.indexes p hp (hwrites.indexed p hp)
  case identities => exact Nat.le_trans h.identities hk

/-- A declared collection that is not there is added. -/
theorem addCollection (h : U.Reach s) (hv : U.plan.spec.Valid)
    (hn : n ∈ U.plan.spec.collectionNames) (hnew : s.collection? U.plan.database n = none) :
    let t := s.putCollection U.plan.database n .empty
    U.Reach t ∧ U.plan.Grows s t := by
  have hempty := Server.collection_of_none hnew
  have hreplaces : U.Replaces s n .empty := by
    refine ⟨hn, fun name => .inl ?_, .inl ?_⟩
    · rw [Plan.view, Server.view, hempty]
    · rw [Server.documents, hempty]
  exact h.put hv hreplaces (Nat.le_refl _)

/-- A declared index that was not there at first is made.  If it was made in the meantime, it is made as
it is. -/
theorem addIndex (h : U.Reach s) (hv : U.plan.spec.Valid) (hnew : U.New s n i) :
    let t := s.putCollection U.plan.database n
      ((s.collection U.plan.database n).withIndex i.indexName i.info)
    U.Reach t ∧ U.plan.Grows s t ∧ U.plan.Indexed t (n, i) := by
  have hview : ∀ name, ((s.collection U.plan.database n).withIndex i.indexName i.info).view name =
      if name = i.indexName then ⟨some i.info, some i.info⟩ else U.plan.view s n name := by
    intro name
    -- nothing has been made under this name so far, or the very same index has
    rcases h.view_place hv hnew.due.mem with heq | ⟨-, heq⟩
    · exact Collection.view_withIndex ((congrArg IndexView.stored heq).trans hnew.stored)
    · rw [Collection.withIndex_of_stored (congrArg IndexView.stored heq)]
      split
      · rename_i hname
        rw [hname]
        exact heq
      · rfl
  intro t
  have hreplaces : U.Replaces s n
      ((s.collection U.plan.database n).withIndex i.indexName i.info) := by
    refine ⟨SeedSpec.mem_collectionNames_of_mem_places hnew.due.mem, fun name => ?_, .inl rfl⟩
    rw [hview name]
    split
    · rename_i hname
      exact .inr ⟨i, hname.symm, hnew, rfl⟩
    · exact .inl rfl
  obtain ⟨ht, hg⟩ := h.put hv hreplaces (Nat.le_refl _)
  refine ⟨ht, hg, ?_, i.info, ?_, IndexSpec.matches?_info⟩
  · rw [Plan.Holds, Server.collection?_putCollection, if_pos rfl]
    rfl
  · rw [Plan.view, Server.view, Server.collection_putCollection, if_pos rfl, hview, if_pos rfl]

theorem mem_rolesCollection {plan : Plan} (hv : plan.spec.Valid) {r : RoleSeed}
    (hr : r ∈ plan.seeds) : rolesCollection ∈ plan.spec.collectionNames :=
  hv.rolesDeclared (List.ne_nil_of_mem (Plan.mem_roles_of_mem_seeds hr))

/-- The role documents are written. -/
theorem putRoles (h : U.Reach s) (hv : U.plan.spec.Valid)
    (hn : rolesCollection ∈ U.plan.spec.collectionNames) {documents : List Fields}
    (hwrites : U.Writes s documents) {k : Nat} (hk : s.identities ≤ k) :
    let t := U.plan.put s rolesCollection
      { s.collection U.plan.database rolesCollection with documents := documents } k
    U.Reach t ∧ U.plan.Grows s t ∧ U.plan.roleDocuments t = documents := by
  intro t
  have hreplaces : U.Replaces s rolesCollection
      { s.collection U.plan.database rolesCollection with documents := documents } :=
    ⟨hn, fun name => .inl (Collection.view_congr rfl), .inr ⟨rfl, hwrites⟩⟩
  obtain ⟨ht, hg⟩ := h.put hv hreplaces hk
  exact ⟨ht, hg, Plan.documents_put.trans (if_pos rfl)⟩

/-- A document is inserted for a role that has none, when the roles before it have theirs. -/
theorem addRole (h : U.Reach s) (hv : U.plan.spec.Valid) {before after : List RoleSeed}
    {q : RoleSeed} (hseeds : U.plan.seeds = before ++ q :: after)
    (hindexed : ∀ p ∈ U.plan.spec.places, U.plan.Indexed s p)
    (hbefore : ∀ r ∈ before, Plan.Present (U.plan.roleDocuments s) r)
    (hnone : (U.plan.roleDocuments s).find? q.fits = none) {now : Instant} (hnow : U.clock now) :
    let t := (s.insert U.plan.database rolesCollection (q.document now)).2
    U.Reach t ∧ U.plan.Grows s t ∧ U.plan.Settled (U.plan.roleDocuments t) q := by
  have hq : q ∈ U.plan.seeds := by rw [hseeds]; simp
  have hidentity : (q.document now).lookup "_id" = none := by
    simp only [RoleSeed.document, RoleSeed.content]
    rfl
  rw [Server.insert_of_lookup_none hidentity]
  intro t
  have hrevised := h.roles.insert hv hseeds hbefore hnone h.identities hnow
  obtain ⟨ht, hg, hdocs⟩ := h.putRoles hv (mem_rolesCollection hv hq)
    ⟨hindexed, hrevised, fun r _ => ⟨fun hp => hp.append, fun hs => hs.append⟩⟩ (Nat.le_succ _)
  refine ⟨ht, hg, ?_⟩
  rw [show U.plan.roleDocuments t = _ from hdocs]
  exact Plan.settled_insert hnone

/-- The first document of a role that differs from the seed is brought in line with it.  It may have been
revised since it was read. -/
theorem reviseRole (h : U.Reach s) (hv : U.plan.spec.Valid)
    (hid : Identified (U.plan.roleDocuments U.origin)) {q : RoleSeed} (hq : q ∈ U.plan.seeds)
    (hpolicy : U.plan.policy = .upsert) (hindexed : ∀ p ∈ U.plan.spec.places, U.plan.Indexed s p)
    {d : Fields} (hd : (U.plan.roleDocuments U.origin).find? q.fits = some d)
    (hdiff : q.differs d = true) {v : Value} (hidentity : d.lookup "_id" = some v) {now : Instant}
    (hnow : U.clock now) :
    let t := s.putCollection U.plan.database rolesCollection
      { s.collection U.plan.database rolesCollection with
        documents := Plan.changeIdentity v q now (U.plan.roleDocuments s) }
    U.Reach t ∧ U.plan.Grows s t ∧ U.plan.Settled (U.plan.roleDocuments t) q := by
  intro t
  obtain ⟨hrevised, hsettled, hall⟩ := h.roles.update hv hid hq hpolicy hd hdiff hidentity hnow
  obtain ⟨ht, hg, hdocs⟩ :=
    h.putRoles hv (mem_rolesCollection hv hq) ⟨hindexed, hrevised, hall⟩ (Nat.le_refl _)
  refine ⟨ht, hg, ?_⟩
  rw [show U.plan.roleDocuments t = _ from hdocs]
  exact hsettled

end Reach

end Undertaking

end Bringup
