import Bringup.Proofs.Provision.Deed
import Bringup.Proofs.Provision.Setting

/-!
# The trail of a run

* `Plan.Trail` : deeds on some objects, one after another, with the outcomes that report them;
* `Plan.assures_trail` : a run that ends with a report has left such a trail on all its objects, and its
  report has the outcomes of the trail.

This holds in any weather: a call that is struck does nothing, and a failure that is taken for a sign that
an object is there is recorded as what it is for the server, an object that is left as it is.
-/

namespace Bringup

/-- No call is struck; a reader may still overlook something. -/
def Weather.SparesCalls (W : Weather) : Prop := ∀ c e, ¬ W.strikes c e

namespace Plan

/-- Deeds on some objects, one after another, and the outcomes that report them. -/
inductive Trail (plan : Plan) (now : Instant) (sure : Prop) :
    List Object → List Outcome → Server → Server → Prop
  | nil {s : Server} : Trail plan now sure [] [] s s
  | cons {o : Object} {action : Action} {objects : List Object} {outcomes : List Outcome}
      {s t u : Server} : plan.Deed now sure o action s t → Trail plan now sure objects outcomes t u →
    Trail plan now sure (o :: objects) (o.outcome action :: outcomes) s u

variable {plan : Plan} {now : Instant} {sure : Prop} {W : Weather} {s t u : Server}

namespace Trail

variable {o : Object} {action : Action} {objects more : List Object} {outcomes told : List Outcome}

theorem single (h : plan.Deed now sure o action s t) :
    plan.Trail now sure [o] [o.outcome action] s t := .cons h .nil

theorem append (h : plan.Trail now sure objects outcomes s t)
    (h' : plan.Trail now sure more told t u) :
    plan.Trail now sure (objects ++ more) (outcomes ++ told) s u := by
  induction h with
  | nil => exact h'
  | cons hdeed _ ih => exact .cons hdeed (ih h')

end Trail

variable (now sure)

/-! ### The principal -/

/-- A creation that fails has left the server as it was. -/
theorem deed_createPrincipal : plan.createPrincipal.Assures (.alone W)
    (fun action t => plan.Deed now sure (.user plan.spec.principal.name) action s t)
    (fun _ t => plan.Deed now sure (.user plan.spec.principal.name) .skipped s t) s := by
  have hleave : plan.Deed now sure (.user plan.spec.principal.name) .skipped s s :=
    .leave (.inl rfl) fun _ => nofun
  refine Program.assures_bind (Program.assures_alone_perform (fun _ _ => hleave) fun v _ => ?_)
  change Program.Assures (.alone W) _ _ _ s
  refine Program.assures_bind (Program.assures_alone_perform (fun _ _ => hleave) fun v _ => ?_)
  rw [Server.answer_createUser]
  by_cases hthere : plan.spec.principal.name ∈ s.users
  · rw [if_pos hthere]
    exact hleave
  · rw [if_neg hthere]
    exact Program.assures_done (.addUser hthere)

theorem trail_principalStep : plan.principalStep.Assures (.alone W)
    (fun outcomes t => plan.Trail now sure
      (if plan.skipPrincipal then [] else [.user plan.spec.principal.name]) outcomes s t)
    (fun _ _ => True) s := by
  unfold principalStep
  split
  · exact Program.assures_bind (Program.assures_say (Program.assures_done .nil))
  · refine Program.assures_bind (Program.assures_bind
      ((assures_recovered_or_failed (deed_createPrincipal now sure)).mono
        (fun action t hdeed => ?_) fun _ _ h => h))
    exact Program.assures_bind (Program.assures_say (Program.assures_done (.single hdeed)))

/-! ### Collections -/

/-- A creation that fails has left the server as it was, and unless the failure came from nowhere, the
collection is there. -/
theorem deed_createCollection {n : String} : (plan.createCollection n).Assures (.alone W)
    (fun action t => plan.Deed now W.SparesCalls (.collection n) action s t)
    (fun _ t => plan.Deed now W.SparesCalls (.collection n) .skipped s t) s := by
  have hleave (hthere : W.SparesCalls → plan.Holds s n) :
      plan.Deed now W.SparesCalls (.collection n) .skipped s s :=
    .leave (.inl rfl) fun hsure m hm => Object.collection.inj hm ▸ hthere hsure
  refine Program.assures_bind (Program.assures_alone_perform
    (fun e he => hleave fun hsure => absurd he (hsure _ e)) fun v _ => ?_)
  rw [Server.answer_createCollection]
  by_cases hthere : (s.collection? plan.database n).isSome
  · rw [if_pos hthere]
    exact hleave fun _ => hthere
  · rw [if_neg hthere]
    exact Program.assures_done (.addCollection (Option.not_isSome_iff_eq_none.1 hthere))

theorem trail_ensureCollection {n : String} {existing : List String}
    (hexisting : ∀ m ∈ existing, plan.Holds s m) :
    (plan.ensureCollection existing n).Assures (.alone W)
      (fun outcome t => plan.Trail now W.SparesCalls [.collection n] [outcome] s t)
      (fun _ _ => True) s := by
  unfold ensureCollection
  split
  · rename_i hlisted
    have hthere := hexisting n (List.contains_iff_mem.1 hlisted)
    refine Program.assures_bind (Program.assures_say (Program.assures_done (.single (.leave
      (.inl rfl) fun _ m hm => Object.collection.inj hm ▸ hthere))))
  · refine Program.assures_bind ((assures_recovered_or_failed (deed_createCollection now)).mono
      (fun action t hdeed => ?_) fun _ _ h => h)
    refine Program.assures_bind ?_
    cases action <;> exact Program.assures_say (Program.assures_done (.single hdeed))

theorem trail_ensureCollections : plan.ensureCollections.Assures (.alone W)
    (fun outcomes t => plan.Trail now W.SparesCalls
      (plan.spec.collectionNames.map .collection) outcomes s t) (fun _ _ => True) s := by
  have hlist : (plan.guarded .collections (Program.perform (.listCollections plan.database))).Assures
      (.alone W) (fun (existing : List String) t => t = s ∧ ∀ m ∈ existing, plan.Holds s m)
      (fun _ _ => True) s := by
    refine assures_guarded (Program.assures_alone_perform (fun _ _ => trivial) fun v _ => ?_)
    exact ⟨rfl, fun m hm => Server.mem_listed.1 (List.mem_filter.1 hm).1⟩
  refine Program.assures_bind (hlist.mono (fun existing t ht => ?_) fun _ _ h => h)
  obtain ⟨rfl, hexisting⟩ := ht
  let inv (before : List String) (outcomes : List Outcome) (u : Server) : Prop :=
    plan.Trail now W.SparesCalls (before.map .collection) outcomes t u ∧
      ∀ m ∈ existing, plan.Holds u m
  have hstart : inv [] [] t := ⟨.nil, hexisting⟩
  refine (Program.assures_each_with (fun before n after outcomes u _ hinv => ?_) hstart).mono
    (fun _ _ hinv => hinv.1) fun _ _ h => h
  refine (trail_ensureCollection now hinv.2).mono (fun outcome w htrail => ?_) fun _ _ h => h
  refine ⟨by simpa using hinv.1.append htrail, fun m hm => ?_⟩
  cases htrail with
  | cons hdeed hnil =>
    cases hnil
    exact hdeed.holds (hinv.2 m hm)

/-! ### Indexes -/

theorem trail_ensureIndex {n : String} {i : IndexSpec} {existing : Assoc IndexInfo}
    (hnone : existing.lookup i.indexName = none → (plan.view s n i.indexName).stored = none) :
    (plan.ensureIndex n existing i).Assures (.alone W)
      (fun outcome t => plan.Trail now sure [.index n i] [outcome] s t ∧
        ∀ name, name ≠ i.indexName → plan.view t n name = plan.view s n name)
      (fun _ _ => True) s := by
  unfold ensureIndex
  cases hl : existing.lookup i.indexName with
  | some info =>
    dsimp only
    cases i.matches? info with
    | error e => trivial
    | ok same =>
      refine Program.assures_bind (Program.assures_done ?_)
      cases same with
      | true =>
        refine Program.assures_bind (Program.assures_say (Program.assures_done ⟨?_, fun _ _ => rfl⟩))
        exact .single (.leave (.inl rfl) fun _ => nofun)
      | false => exact Program.assures_bind (Program.assures_say trivial)
  | none =>
    have hmake : (plan.guarded .indexes
        (Program.perform (.createIndex plan.database n i))).Assures (.alone W)
        (fun _ t => plan.Deed now sure (.index n i) .created s t ∧
          ∀ name, name ≠ i.indexName → plan.view t n name = plan.view s n name)
        (fun _ _ => True) s := by
      refine assures_guarded (Program.assures_alone_perform (fun _ _ => trivial) fun v _ => ?_)
      refine ⟨.addIndex (hnone hl), fun name hname => ?_⟩
      change (s.putCollection plan.database n
        ((s.collection plan.database n).withIndex i.indexName i.info)).view plan.database n name = _
      rw [Server.view_putCollection, if_pos rfl, Collection.view_withIndex (hnone hl), if_neg hname]
      rfl
    refine Program.assures_bind (hmake.mono (fun _ t ht => ?_) fun _ _ h => h)
    exact Program.assures_bind (Program.assures_say (Program.assures_done ⟨.single ht.1, ht.2⟩))

/-- What is not among the reported indexes of a collection is not stored. -/
theorem stored_eq_none_of_lookup {n name : String}
    (h : (s.indexInformation plan.database n).lookup name = none) :
    (plan.view s n name).stored = none := by
  cases hc : s.collection? plan.database n with
  | none =>
    rw [view, Server.view, Server.collection_of_none hc]
    rfl
  | some c =>
    rw [Server.lookup_indexInformation (by rw [hc]; rfl)] at h
    exact Collection.stored_of_reported h

theorem trail_ensureCollectionIndexes {c : CollectionSpec} (hc : c.Valid) :
    (plan.ensureCollectionIndexes c).Assures (.alone W)
      (fun outcomes t => plan.Trail now sure (c.indexes.map (.index c.name)) outcomes s t)
      (fun _ _ => True) s := by
  unfold ensureCollectionIndexes
  split
  · rename_i hempty
    rw [List.isEmpty_iff.1 hempty]
    exact Program.assures_done .nil
  refine Program.assures_bind (Program.assures_alone_perform (fun _ _ => trivial) fun _ _ => ?_)
  have hread : (plan.guarded .indexes
      (Program.perform (.indexInformation plan.database c.name))).Assures (.alone W)
      (fun (existing : Assoc IndexInfo) t =>
        t = s ∧ existing = s.indexInformation plan.database c.name) (fun _ _ => True) s :=
    assures_guarded (Program.assures_alone_perform (fun _ _ => trivial) fun _ _ => ⟨rfl, rfl⟩)
  refine Program.assures_bind (hread.mono (fun existing t ht => ?_) fun _ _ h => h)
  obtain ⟨rfl, rfl⟩ := ht
  -- an index that was not read is still not stored when its turn comes, as the others have other names
  let inv (done : List IndexSpec) (outcomes : List Outcome) (u : Server) : Prop :=
    plan.Trail now sure (done.map (.index c.name)) outcomes t u ∧
      ∀ name, name ∉ done.map IndexSpec.indexName →
        plan.view u c.name name = plan.view t c.name name
  have hstart : inv [] [] t := ⟨.nil, fun _ _ => rfl⟩
  refine (Program.assures_each_with (fun done i rest outcomes u hindexes hinv => ?_) hstart).mono
    (fun _ _ hinv => hinv.1) fun _ _ h => h
  have hfresh : i.indexName ∉ done.map IndexSpec.indexName :=
    Program.new_of_nodup_map hc.distinct hindexes
  have hnone (hl : (t.indexInformation plan.database c.name).lookup i.indexName = none) :
      (plan.view u c.name i.indexName).stored = none := by
    rw [hinv.2 _ hfresh]
    exact stored_eq_none_of_lookup hl
  refine (trail_ensureIndex now sure hnone).mono (fun outcome w hw => ?_) fun _ _ h => h
  refine ⟨by simpa using hinv.1.append hw.1, fun name hname => ?_⟩
  rw [List.map_append, List.mem_append, not_or, List.map_singleton, List.mem_singleton] at hname
  exact (hw.2 name hname.2).trans (hinv.2 name hname.1)

theorem trail_ensureIndexes (hv : plan.spec.Valid) : plan.ensureIndexes.Assures (.alone W)
    (fun outcomes t => plan.Trail now sure
      (plan.spec.places.map fun p => .index p.1 p.2) outcomes s t) (fun _ _ => True) s := by
  let inv (before : List CollectionSpec) (outcomes : List (List Outcome)) (u : Server) : Prop :=
    plan.Trail now sure (before.flatMap fun c => c.indexes.map (.index c.name)) outcomes.flatten s u
  have hstart : inv [] [] s := .nil
  refine Program.assures_bind ((Program.assures_each_with
    (fun before c after outcomes u hcollections hinv => ?_) hstart).mono (fun outcomes t hinv => ?_)
      fun _ _ h => h)
  · have hc : c ∈ plan.spec.collections := by rw [hcollections]; simp
    refine (trail_ensureCollectionIndexes now sure (hv.collections c hc)).mono (fun more w htrail => ?_)
      fun _ _ h => h
    simpa [inv] using Trail.append hinv htrail
  · refine Program.assures_done ?_
    rw [SeedSpec.places, List.map_flatMap]
    simpa [inv, Function.comp_def] using hinv

/-! ### Role documents -/

variable {r : RoleSeed}

theorem deed_insertRole {present : Action} (hpresent : present = .skipped ∨ present = .unchanged) :
    (plan.insertRole r now present).Assures (.alone W)
      (fun action t => plan.Deed now sure (.role r) action s t) (fun _ _ => True) s := by
  refine Program.assures_bind (Program.assures_alone_perform (fun _ _ => trivial) fun v _ => ?_)
  rw [Server.answer_insertIfAbsent]
  by_cases hthere : ((s.documents plan.database rolesCollection).find?
      (matchesFilter (codeFilter r))).isSome
  · rw [if_pos hthere]
    exact Program.assures_done (.leave hpresent fun _ _ => nofun)
  · rw [if_neg hthere]
    exact Program.assures_done (.addRole (Option.not_isSome_iff_eq_none.1 hthere))

theorem deed_updateRole {stored : Fields}
    (hstored : (plan.roleDocuments s).find? r.fits = some stored) :
    (plan.updateRole r now stored).Assures (.alone W)
      (fun action t => plan.Deed now sure (.role r) action s t) (fun _ _ => True) s := by
  unfold updateRole
  split
  · rename_i hdiff
    cases hidentity : stored.lookup "_id" with
    | none => trivial
    | some v =>
      refine Program.assures_bind (Program.assures_alone_perform (fun _ _ => trivial) fun sight _ => ?_)
      rw [Server.answer_setFields_eq]
      exact Program.assures_done (.reviseRole hstored hdiff hidentity)
  · exact Program.assures_done (.leave (.inr rfl) fun _ _ => nofun)

theorem deed_writeRole : (plan.writeRole r now).Assures (.alone W)
    (fun action t => plan.Deed now sure (.role r) action s t) (fun _ _ => True) s := by
  unfold writeRole
  split
  · exact deed_insertRole now sure (.inl rfl)
  refine Program.assures_bind (Program.assures_alone_perform (fun _ _ => trivial) fun v _ => ?_)
  cases hfound : if v.blind = true then none else (plan.roleDocuments s).find? r.fits with
  | none =>
    rw [Server.answer_findOne hfound]
    exact deed_insertRole now sure (.inr rfl)
  | some stored =>
    rw [Server.answer_findOne hfound]
    split at hfound
    · cases hfound
    · exact deed_updateRole now sure hfound

theorem trail_seedStep : (plan.seedStep now).Assures (.alone W)
    (fun outcomes t => plan.Trail now sure (plan.seeds.map .role) outcomes s t)
    (fun _ _ => True) s := by
  unfold seedStep
  split
  · rename_i hskip
    refine Program.assures_bind (Program.assures_say (Program.assures_done ?_))
    rw [seeds, if_pos hskip]
    exact .nil
  rename_i hskip
  have hseeds : plan.seeds = plan.spec.roles := if_neg hskip
  rw [hseeds]
  unfold seedRoles
  split
  · rename_i hempty
    rw [List.isEmpty_iff.1 hempty]
    exact Program.assures_done .nil
  refine Program.assures_bind (Program.assures_alone_perform (fun _ _ => trivial) fun _ _ => ?_)
  let inv (before : List RoleSeed) (outcomes : List Outcome) (u : Server) : Prop :=
    plan.Trail now sure (before.map .role) outcomes s u
  have hstart : inv [] [] s := .nil
  refine Program.assures_each_with (fun before q after outcomes u _ hinv => ?_) hstart
  refine Program.assures_bind ((assures_guarded (deed_writeRole now sure)).mono
    (fun action t hdeed => ?_) fun _ _ h => h)
  refine Program.assures_bind (Program.assures_say (Program.assures_done ?_))
  simpa [inv, Object.outcome, Object.step, Object.target] using Trail.append hinv (.single hdeed)

/-! ### The run -/

/-- A run that ends with a report has left a trail on all its objects, with the outcomes of its report. -/
theorem assures_trail (hv : plan.spec.Valid) : (plan.provision now).Assures (.alone W)
    (fun report t => plan.Trail now W.SparesCalls plan.objects report.outcomes s t)
    (fun _ _ => True) s := by
  refine Program.assures_bind (Program.assures_say ?_)
  refine Program.assures_bind ((trail_principalStep now W.SparesCalls).mono
    (fun _ s₁ hprincipal => ?_) fun _ _ h => h)
  refine Program.assures_bind (Program.assures_alone_perform (fun _ _ => trivial) fun _ _ => ?_)
  refine Program.assures_bind ((trail_ensureCollections now).mono
    (fun _ s₂ hcollections => ?_) fun _ _ h => h)
  refine Program.assures_bind ((trail_ensureIndexes now W.SparesCalls hv).mono
    (fun _ s₃ hindexes => ?_) fun _ _ h => h)
  refine Program.assures_bind ((trail_seedStep now W.SparesCalls).mono
    (fun _ s₄ hseeds => ?_) fun _ _ h => h)
  refine Program.assures_bind (Program.assures_say (Program.assures_done ?_))
  exact ((hprincipal.append hcollections).append hindexes).append hseeds

end Plan

end Bringup
