import Bringup.Proofs.Provision.Object

/-!
# What is done to the objects of a run

* `Plan.Deed` : what a run does to an object in the action that it records: there are five changes, and
  the object may be left as it is;
* `Plan.Traced` : the role documents that were there are known by their identities, and new ones come after
  them and are as their seeds have them; every deed keeps to this (`Deed.traced`);
* `Deed.absent_of_created`, `Deed.rewritten_of_updated`, `Deed.eq_of_quiet` : what a deed does to its own
  object, told by its action;
* `Deed.same` : all other objects of the run are as they were.

A deed on what is in a collection brings the collection into being when it is not there.  Only then it does
something to another object, and `Deed.same` leaves this case out.
-/

namespace Bringup

namespace Plan

/-- What a run does to an object in the action that it records.  When it is `sure` that no failure came from
nowhere, a collection that is left as it is is there. -/
inductive Deed (plan : Plan) (now : Instant) (sure : Prop) :
    Object → Action → Server → Server → Prop
  | leave {o : Object} {action : Action} {s : Server} :
    action = .skipped ∨ action = .unchanged → (sure → ∀ n, o = .collection n → plan.Holds s n) →
      Deed plan now sure o action s s
  | addUser {name : String} {s : Server} : name ∉ s.users →
    Deed plan now sure (.user name) .created s { s with users := s.users ++ [name] }
  | addCollection {n : String} {s : Server} : s.collection? plan.database n = none →
    Deed plan now sure (.collection n) .created s (s.putCollection plan.database n .empty)
  | addIndex {n : String} {i : IndexSpec} {s : Server} :
    (plan.view s n i.indexName).stored = none →
      Deed plan now sure (.index n i) .created s (s.putCollection plan.database n
        ((s.collection plan.database n).withIndex i.indexName i.info))
  | addRole {r : RoleSeed} {s : Server} : (plan.roleDocuments s).find? r.fits = none →
    Deed plan now sure (.role r) .created s
      (s.insert plan.database rolesCollection (r.document now)).2
  | reviseRole {r : RoleSeed} {d : Fields} {v : Value} {s : Server} :
    (plan.roleDocuments s).find? r.fits = some d → r.differs d = true → d.lookup "_id" = some v →
      Deed plan now sure (.role r) .updated s
        (s.answer .clear (.setFields plan.database rolesCollection [("_id", v)]
          (r.content ++ [("updated_at", .date now)]))).2

/-- The older documents are there in their order, each with its identity, and documents after them are as
the seed has them whose code they have. -/
def Traced (plan : Plan) (old documents : List Fields) : Prop :=
  ∃ kept new, documents = kept ++ new ∧
    kept.map (fun d => d.lookup "_id") = old.map (fun d => d.lookup "_id") ∧
    ∀ d ∈ new, ∃ r ∈ plan.seeds, r.fits d = true ∧ r.differs d = false

variable {plan : Plan} {now : Instant} {sure : Prop} {o o' : Object} {action : Action}
  {s t : Server} {old documents : List Fields} {r : RoleSeed} {d : Fields} {v : Value}

/-! ### Role documents that are traced -/

theorem traced_refl : plan.Traced old old := ⟨old, [], (List.append_nil _).symm, rfl, nofun⟩

/-- Documents can be told apart by their identities alone. -/
theorem identified_of_map_eq {kept : List Fields} (hid : Identified old)
    (h : kept.map (fun d => d.lookup "_id") = old.map fun d => d.lookup "_id") :
    Identified kept where
  identity := fun d hd => by
    have hmem : d.lookup "_id" ∈ old.map fun d => d.lookup "_id" := h ▸ List.mem_map_of_mem hd
    obtain ⟨e, he, heq⟩ := List.mem_map.1 hmem
    rw [← heq]
    exact hid.identity e he
  apart := by
    let apart (x y : Option Value) : Prop :=
      ∀ v w, x = some v → y = some w → v.equal w = false ∧ w.equal v = false
    have hold : (old.map fun d => d.lookup "_id").Pairwise apart := List.pairwise_map.2 hid.apart
    rw [← h] at hold
    have hkept := List.pairwise_map.1 hold
    exact hkept

/-- A document of a seed that differs from it has been there from the beginning. -/
theorem Traced.exists_split (h : plan.Traced old documents) (hv : plan.spec.Valid)
    (hr : r ∈ plan.seeds) (hd : documents.find? r.fits = some d) (hdiff : r.differs d = true) :
    ∃ before after new, documents = (before ++ d :: after) ++ new ∧
      (before ++ d :: after).map (fun d => d.lookup "_id") = old.map (fun d => d.lookup "_id") ∧
      ∀ d ∈ new, ∃ r ∈ plan.seeds, r.fits d = true ∧ r.differs d = false := by
  obtain ⟨kept, new, rfl, hkept, hnew⟩ := h
  have hfits := List.find?_some hd
  have hmem : d ∈ kept := by
    rcases List.mem_append.1 (List.mem_of_find?_eq_some hd) with hmem | hmem
    · exact hmem
    · obtain ⟨q, hq, hqfits, hqsame⟩ := hnew d hmem
      obtain rfl := seed_unique hv hq hr (RoleSeed.code_eq_of_fits hqfits hfits)
      rw [hqsame] at hdiff
      cases hdiff
  obtain ⟨before, after, rfl⟩ := List.append_of_mem hmem
  exact ⟨before, after, new, rfl, hkept, hnew⟩

/-- A document that no other precedes with its identity is the one that is changed. -/
theorem updateFirst_of_not_before {filter : Fields} {change : Fields → Fields}
    {before after : List Fields} (hbefore : ∀ e ∈ before, matchesFilter filter e = false)
    (hd : matchesFilter filter d = true) :
    updateFirst filter change (before ++ d :: after) = before ++ change d :: after := by
  induction before with
  | nil => rw [List.nil_append, updateFirst, if_pos hd, List.nil_append]
  | cons e before ih =>
    obtain ⟨he, hbefore⟩ := List.forall_mem_cons.1 hbefore
    rw [List.cons_append, updateFirst, he, ih hbefore]
    rfl

/-- No document before another one has its identity. -/
theorem not_matches_before {before after : List Fields} (hid : Identified (before ++ d :: after))
    (hidentity : d.lookup "_id" = some v) :
    (∀ e ∈ before, matchesFilter [("_id", v)] e = false) ∧ matchesFilter [("_id", v)] d = true := by
  obtain ⟨w, hw, hself⟩ := hid.identity d (by simp)
  obtain rfl : v = w := Option.some.inj (hidentity.symm.trans hw)
  refine ⟨fun e he => ?_, matchesFilter_singleton.2 ⟨v, hw, hself⟩⟩
  rw [Bool.eq_false_iff]
  intro hmatch
  obtain ⟨w, hew, hequal⟩ := matchesFilter_singleton.1 hmatch
  have hapart := (List.pairwise_append.1 hid.apart).2.2 e he d List.mem_cons_self
  rw [(hapart w v hew hidentity).1] at hequal
  cases hequal

/-! ### The two ways of writing role documents -/

/-- The server after a document was inserted for a role. -/
theorem insert_role : (s.insert plan.database rolesCollection (r.document now)).2 =
    plan.put s rolesCollection { s.collection plan.database rolesCollection with
      documents := plan.roleDocuments s ++ [("_id", s.nextIdentity) :: r.document now] }
      (s.identities + 1) := by
  have hidentity : (r.document now).lookup "_id" = none := by
    simp only [RoleSeed.document, RoleSeed.content]
    rfl
  rw [Server.insert_of_lookup_none hidentity]
  rfl

/-- The server after a document of a role was revised, where documents are traced. -/
theorem revise_role (now : Instant) (hv : plan.spec.Valid) (hid : Identified old)
    (h : plan.Traced old (plan.roleDocuments s)) (hr : r ∈ plan.seeds)
    (hd : (plan.roleDocuments s).find? r.fits = some d) (hdiff : r.differs d = true)
    (hidentity : d.lookup "_id" = some v) :
    ∃ before after new, plan.roleDocuments s = (before ++ d :: after) ++ new ∧
      (before ++ d :: after).map (fun d => d.lookup "_id") = old.map (fun d => d.lookup "_id") ∧
      (∀ d ∈ new, ∃ r ∈ plan.seeds, r.fits d = true ∧ r.differs d = false) ∧
      (s.answer .clear (.setFields plan.database rolesCollection [("_id", v)]
        (r.content ++ [("updated_at", .date now)]))).2 =
        plan.put s rolesCollection { s.collection plan.database rolesCollection with
          documents := (before ++ r.revised now d :: after) ++ new } s.identities := by
  obtain ⟨before, after, new, hdocs, hkept, hnew⟩ := h.exists_split hv hr hd hdiff
  refine ⟨before, after, new, hdocs, hkept, hnew, ?_⟩
  obtain ⟨hbefore, hself⟩ := not_matches_before (identified_of_map_eq hid hkept) hidentity
  have hfound : ((s.documents plan.database rolesCollection).find?
      (matchesFilter [("_id", v)])).isSome := by
    refine List.find?_isSome.2 ⟨d, ?_, hself⟩
    change d ∈ plan.roleDocuments s
    rw [hdocs]
    simp
  have hchanged : updateFirst [("_id", v)] (r.revised now) (plan.roleDocuments s) =
      (before ++ r.revised now d :: after) ++ new := by
    rw [hdocs, List.append_assoc, List.cons_append, updateFirst_of_not_before hbefore hself,
      List.append_assoc, List.cons_append]
  rw [Server.answer_setFields hfound, ← hchanged]
  rfl

/-- A revision leaves the identity and the code of a document. -/
theorem lookup_identity_revised : (r.revised now d).lookup "_id" = d.lookup "_id" :=
  RoleSeed.lookup_revised (by decide) (by decide) (by decide) (by decide)

theorem fits_revised (q : RoleSeed) : q.fits (r.revised now d) = q.fits d := by
  have hcode : (r.revised now d).lookup "code" = d.lookup "code" :=
    RoleSeed.lookup_revised (by decide) (by decide) (by decide) (by decide)
  rw [Bool.eq_iff_iff, RoleSeed.fits_iff, RoleSeed.fits_iff, hcode]

/-! ### What is seen of the other objects -/

/-- A collection that is put back leaves the objects as they were of which it holds the same. -/
theorem same_put {n : String} {c : Collection} {k : Nat}
    (hcollection : o = .collection n → plan.Holds s n ∧
      (∀ name, (∀ i, (n, i) ∈ plan.spec.places → i.indexName ≠ name) →
        (c.view name).stored = (plan.view s n name).stored) ∧
      c.documents.filter (plan.foreign n) =
        (s.documents plan.database n).filter (plan.foreign n))
    (hindex : ∀ i, o = .index n i →
      (c.view i.indexName).stored = (plan.view s n i.indexName).stored)
    (hrole : ∀ r, o = .role r → n = rolesCollection →
      c.documents.filter r.fits = (plan.roleDocuments s).filter r.fits) :
    plan.Same o s (plan.put s n c k) := by
  cases o with
  | user name => exact Iff.rfl
  | collection m =>
    by_cases hm : m = n
    · subst hm
      obtain ⟨hthere, hindexes, hdocuments⟩ := hcollection rfl
      refine ⟨⟨fun _ => hthere, holds_put⟩, fun name hname => ?_, ?_⟩
      · rw [view_put, if_pos rfl]
        exact hindexes name hname
      · rw [documents_put, if_pos rfl]
        exact hdocuments
    · refine ⟨?_, fun name _ => ?_, ?_⟩
      · rw [Holds, Holds, collection?_put, if_neg hm]
      · rw [view_put, if_neg hm]
      · rw [documents_put, if_neg hm]
  | index m i =>
    rw [Same, view_put]
    split
    · rename_i hm
      subst hm
      exact hindex i rfl
    · rfl
  | role r =>
    rw [Same, roleDocuments, documents_put]
    split
    · rename_i hn
      exact hrole r rfl hn.symm
    · rfl

/-- Role documents that are put back leave all objects but their role as they were, when only documents of
this role are added or changed. -/
theorem same_put_roles (hv : plan.spec.Valid) (hr : r ∈ plan.seeds) (ho : o ∈ plan.objects)
    (hne : o ≠ .role r) (hthere : ∀ n, o = .collection n → plan.Holds s n) {k : Nat}
    (hdocuments : ∀ p : Fields → Bool, (∀ d, r.fits d = true → p d = false) →
      documents.filter p = (plan.roleDocuments s).filter p) :
    plan.Same o s (plan.put s rolesCollection
      { s.collection plan.database rolesCollection with documents := documents } k) := by
  refine same_put (fun hcollection => ?_) (fun i _ => ?_) fun q hq _ => ?_
  · refine ⟨hthere _ hcollection, fun name _ => ?_, hdocuments _ fun d hd => ?_⟩
    · exact congrArg IndexView.stored (Collection.view_congr rfl)
    · have hseed : (plan.seeds.any fun r => r.fits d) = true := List.any_eq_true.2 ⟨r, hr, hd⟩
      simp [foreign, hseed]
  · exact congrArg IndexView.stored (Collection.view_congr rfl)
  · subst hq
    refine hdocuments _ fun d hd => Bool.eq_false_iff.2 fun hfits => hne ?_
    rw [seed_unique hv (role_mem_objects.1 ho) hr (RoleSeed.code_eq_of_fits hfits hd)]

/-- A deed leaves all other objects of the run as they were, provided that a collection is there before
something is done in it. -/
theorem Deed.same (h : plan.Deed now sure o action s t) (hv : plan.spec.Valid)
    (hid : Identified old) (htraced : plan.Traced old (plan.roleDocuments s))
    (ho : o ∈ plan.objects) (ho' : o' ∈ plan.objects) (hne : o' ≠ o)
    (hthere : ∀ n, o' = .collection n → o.IsContent → plan.Holds s n) : plan.Same o' s t := by
  cases h with
  | leave => exact same_refl
  | @addUser name s hnew =>
    cases o' with
    | user name' =>
      have hname : name' ≠ name := fun heq => hne (congrArg Object.user heq)
      simp [Same, hname]
    | collection n => exact ⟨Iff.rfl, fun _ _ => rfl, rfl⟩
    | index n i => exact rfl
    | role r => exact rfl
  | @addCollection n s hnew =>
    -- one that is not there reads as an empty one, and so no index and no document seems new in it
    have hempty := Server.collection_of_none hnew
    refine same_put (k := s.identities) (fun heq => absurd heq hne) (fun i _ => ?_)
      fun r _ hroles => ?_
    · rw [view, Server.view, hempty]
    · subst hroles
      rw [roleDocuments, Server.documents, hempty]
  | @addIndex n i s hnew =>
    have hplace := index_mem_objects.1 ho
    -- the declared indexes of a collection have names of their own
    have hother {name : String} (hname : name ≠ i.indexName) :
        (((s.collection plan.database n).withIndex i.indexName i.info).view name).stored =
          (plan.view s n name).stored := by
      rw [Collection.view_withIndex hnew, if_neg hname]
      rfl
    refine same_put (k := s.identities) (fun heq => ?_) (fun j heq => hother fun hname => hne ?_)
      fun r _ hroles => ?_
    · exact ⟨hthere n heq trivial, fun name hname => hother (hname i hplace).symm, rfl⟩
    · subst heq
      rw [hv.index_unique (index_mem_objects.1 ho') hplace hname]
    · subst hroles
      rfl
  | @addRole r s hnone =>
    rw [insert_role]
    refine same_put_roles hv (role_mem_objects.1 ho) ho' hne (fun n hn => hthere n hn trivial)
      fun p hp => ?_
    have hdoc : p (("_id", s.nextIdentity) :: r.document now) = false :=
      hp _ (RoleSeed.fits_inserted.2 rfl)
    simp [List.filter_append, hdoc]
  | @reviseRole r d v s hd hdiff hidentity =>
    have hr := role_mem_objects.1 ho
    obtain ⟨before, after, new, hdocs, -, -, heq⟩ :=
      revise_role now hv hid htraced hr hd hdiff hidentity
    rw [heq]
    refine same_put_roles hv hr ho' hne (fun n hn => hthere n hn trivial) fun p hp => ?_
    -- no other seed fits the document, neither before nor after
    have hfits := List.find?_some hd
    have hbefore : p d = false := hp d hfits
    have hafter : p (r.revised now d) = false := hp _ ((fits_revised r).trans hfits)
    simp [hdocs, List.filter_append, hbefore, hafter]

/-! ### What is done to the object itself -/

/-- What was there is still there. -/
theorem Deed.holds (h : plan.Deed now sure o action s t) {m : String} (hm : plan.Holds s m) :
    plan.Holds t m := by
  cases h with
  | leave => exact hm
  | addUser => exact hm
  | addCollection => exact holds_put (k := s.identities) hm
  | addIndex => exact holds_put (k := s.identities) hm
  | addRole =>
    rw [insert_role]
    exact holds_put hm
  | reviseRole =>
    simp only [Server.answer]
    split
    · exact holds_put (k := s.identities) hm
    · exact hm

/-- What is created was not there, and is there afterwards. -/
theorem Deed.absent_of_created (h : plan.Deed now sure o .created s t) :
    plan.Absent o s ∧ ¬ plan.Absent o t := by
  cases h with
  | leave hquiet => rcases hquiet with h | h <;> cases h
  | addUser hnew => exact ⟨hnew, by simp [Absent]⟩
  | addCollection hnew => exact ⟨hnew, by simp [Absent, Server.collection?_putCollection]⟩
  | @addIndex n i s hnew =>
    refine ⟨hnew, ?_⟩
    rw [Absent, view, Server.view_putCollection, if_pos rfl, Collection.view_withIndex hnew,
      if_pos rfl]
    exact Option.some_ne_none _
  | @addRole r s hnone =>
    refine ⟨List.filter_eq_nil_iff.2 (List.find?_eq_none.1 hnone), ?_⟩
    have hfits : r.fits (("_id", s.nextIdentity) :: r.document now) = true :=
      RoleSeed.fits_inserted.2 rfl
    rw [insert_role, Absent, roleDocuments, documents_put, if_pos rfl]
    simp [List.filter_append, hfits]

/-- What is updated is a stored document that changes in a field of its seed. -/
theorem Deed.rewritten_of_updated (h : plan.Deed now sure o .updated s t) (hv : plan.spec.Valid)
    (hid : Identified old) (htraced : plan.Traced old (plan.roleDocuments s))
    (ho : o ∈ plan.objects) : plan.Rewritten o s t := by
  cases h with
  | leave hquiet => rcases hquiet with h | h <;> cases h
  | @reviseRole r d v s hd hdiff hidentity =>
    obtain ⟨before, after, new, hdocs, -, -, heq⟩ :=
      revise_role now hv hid htraced (role_mem_objects.1 ho) hd hdiff hidentity
    have hfits := List.find?_some hd
    rw [heq, Rewritten, roleDocuments, roleDocuments, documents_put, if_pos rfl]
    refine ⟨d, List.mem_of_find?_eq_some hd, r.revised now d, by simp, hfits,
      (fits_revised r).trans hfits, lookup_identity_revised, ?_⟩
    by_contra hsame
    -- with these fields the document would have been as the seed has it
    have hlookup : ∀ field ∈ ["name", "description", "permissions"],
        (r.revised now d).lookup field = d.lookup field := by simpa using hsame
    have hrevised : r.differs (r.revised now d) = false := RoleSeed.differs_revised
    have hold : r.differs d = false := by
      rw [RoleSeed.differs_eq_false_iff] at hrevised ⊢
      rwa [hlookup "name" (by simp), hlookup "description" (by simp),
        hlookup "permissions" (by simp)] at hrevised
    rw [hold] at hdiff
    cases hdiff

/-- An object for which nothing was recorded is left as it is. -/
theorem Deed.eq_of_quiet (h : plan.Deed now sure o action s t)
    (hquiet : action ≠ .created ∧ action ≠ .updated) : t = s := by
  cases h with
  | leave => rfl
  | reviseRole => exact absurd rfl hquiet.2
  | _ => exact absurd rfl hquiet.1

/-- Where no failure came from nowhere, a collection is there after its deed. -/
theorem Deed.holds_collection {n : String} (h : plan.Deed now sure (.collection n) action s t)
    (hsure : sure) : plan.Holds t n := by
  cases h with
  | leave _ hthere => exact hthere hsure n rfl
  | addCollection => simp [Holds, Server.collection?_putCollection]

/-- Every deed keeps the role documents traced. -/
theorem Deed.traced (h : plan.Deed now sure o action s t) (hv : plan.spec.Valid)
    (hid : Identified old) (htraced : plan.Traced old (plan.roleDocuments s))
    (ho : o ∈ plan.objects) : plan.Traced old (plan.roleDocuments t) := by
  cases h with
  | leave => exact htraced
  | addUser => exact htraced
  -- a new collection comes with no documents, and an index leaves those that are there
  | @addCollection n s hnew =>
    rw [roleDocuments, Server.documents_putCollection]
    split
    · rename_i hn
      rw [← hn] at hnew
      rwa [roleDocuments, Server.documents, Server.collection_of_none hnew] at htraced
    · exact htraced
  | @addIndex n i s hnew =>
    rw [roleDocuments, Server.documents_putCollection]
    split
    · rename_i hn
      subst hn
      exact htraced
    · exact htraced
  | @addRole r s hnone =>
    rw [insert_role, roleDocuments, documents_put, if_pos rfl]
    obtain ⟨kept, new, hdocs, hkept, hnew⟩ := htraced
    refine ⟨kept, new ++ [("_id", s.nextIdentity) :: r.document now], ?_, hkept, fun d hd => ?_⟩
    · rw [hdocs, List.append_assoc]
    · rcases List.mem_append.1 hd with hd | hd
      · exact hnew d hd
      · rw [List.mem_singleton.1 hd]
        exact ⟨r, role_mem_objects.1 ho, RoleSeed.fits_inserted.2 rfl, RoleSeed.differs_inserted⟩
  | @reviseRole r d v s hd hdiff hidentity =>
    obtain ⟨before, after, new, -, hkept, hnew, heq⟩ :=
      revise_role now hv hid htraced (role_mem_objects.1 ho) hd hdiff hidentity
    rw [heq, roleDocuments, documents_put, if_pos rfl]
    refine ⟨before ++ r.revised now d :: after, new, rfl, ?_, hnew⟩
    rw [← hkept, List.map_append, List.map_append, List.map_cons, List.map_cons,
      lookup_identity_revised]

end Plan

end Bringup
