import Bringup.Proofs.Provision.Conduct
import Bringup.Proofs.Provision.Outline

/-!
# Indexes before role documents

* `Call.IsSeeding` : the calls that look for role documents and write them;
* `Server.exists_collection?_answer`, `Plan.indexed_answer` : but for the creation of an index, no call
  takes away an index that is reported, or changes it;
* `Plan.provision_indexes_first` : whenever a run makes such a call, all declared indexes are reported as
  they are declared, and nothing is created from there on but role documents.

This holds in any weather.  The creation of a collection may be recovered from without effect, and then
its first index brings it into being; no other failure lets the run come to the role documents.
-/

namespace Bringup

/-- The call looks for a document or writes one. -/
def Call.IsSeeding (c : Call) : Prop := c.kind = .findOne ∨ c.kind = .updateOne

/-! ### What keeps an index -/

namespace Server

variable {s : Server} {database name d n : String} {v : Sight} {c new old : Collection}

/-- A collection that is put back with its indexes leaves all collections with theirs. -/
theorem exists_collection?_putCollection
    (hnew : new.indexes = (s.collection database name).indexes)
    (hold : s.collection? d n = some old) :
    ∃ c, (s.putCollection database name new).collection? d n = some c ∧ c.indexes = old.indexes := by
  by_cases hd : d = database
  · subst hd
    rw [collection?_putCollection]
    split
    · rename_i hn
      subst hn
      exact ⟨new, rfl, by rw [hnew, collection_of_some hold]⟩
    · exact ⟨old, hold, rfl⟩
  · refine ⟨old, ?_, rfl⟩
    unfold collection? collections at hold ⊢
    rwa [databases_putCollection hd]

/-- But for the creation of an index, no call changes the indexes of a collection that is there. -/
theorem exists_collection?_answer {c : Call} (hc : c.kind ≠ .createIndexes)
    (hold : s.collection? d n = some old) :
    ∃ new, (s.answer v c).2.collection? d n = some new ∧ new.indexes = old.indexes := by
  have hsame : ∃ new, s.collection? d n = some new ∧ new.indexes = old.indexes := ⟨old, hold, rfl⟩
  cases c with
  | createIndex database name index => exact absurd rfl hc
  | command database name value arguments =>
    simp only [answer]
    split
    · split <;> exact hsame
    · exact hsame
  -- only a collection that is not there is created, and one that is written keeps its indexes
  | createCollection database name =>
    rw [answer_createCollection]
    split
    · exact hsame
    · rename_i hnone
      refine exists_collection?_putCollection ?_ hold
      rw [collection_of_none (Option.not_isSome_iff_eq_none.1 hnone)]
  | insertIfAbsent database name filter document =>
    rw [answer_insertIfAbsent]
    split
    · exact hsame
    · rw [insert]
      split <;> exact exists_collection?_putCollection rfl hold
  | setFields database name filter fields =>
    simp only [answer]
    split
    · exact exists_collection?_putCollection rfl hold
    · exact hsame
  | _ => exact hsame

end Server

namespace Plan

variable {plan : Plan} {s t : Server} {now : Instant}

/-- But for the creation of an index, no call takes away a declared index that is there. -/
theorem indexed_answer {c : Call} {v : Sight} {p : String × IndexSpec}
    (hc : c.kind ≠ .createIndexes) (h : plan.Indexed s p) : plan.Indexed (s.answer v c).2 p := by
  obtain ⟨hholds, info, hinfo, hmatch⟩ := h
  obtain ⟨old, hold⟩ := Option.isSome_iff_exists.1 hholds
  obtain ⟨new, hnew, hindexes⟩ := Server.exists_collection?_answer (v := v) hc hold
  refine ⟨by rw [Holds, hnew]; rfl, info, ?_, hmatch⟩
  rw [← hinfo]
  simp only [view, Server.view, Server.collection_of_some hnew, Server.collection_of_some hold,
    Collection.view_congr hindexes]

/-- What is there is reported by a reading of the indexes. -/
theorem Indexed.exists_reported {c : CollectionSpec} {i : IndexSpec}
    (h : plan.Indexed s (c.name, i)) :
    ∃ info, (s.indexInformation plan.database c.name).lookup i.indexName = some info ∧
      i.matches? info = .ok true := by
  obtain ⟨hholds, info, hinfo, hmatch⟩ := h
  exact ⟨info, (Server.lookup_indexInformation hholds).trans hinfo, hmatch⟩

/-! ### The calls of a run -/

/-- Calls of kinds of which none is one of seeding. -/
theorem not_isSeeding_of_kind {kinds : List CallKind} (hno : .findOne ∉ kinds ∧ .updateOne ∉ kinds)
    (c : Call) (hc : c.kind ∈ kinds) : ¬ c.IsSeeding :=
  not_or.2 ⟨fun heq => hno.1 (heq ▸ hc), fun heq => hno.2 (heq ▸ hc)⟩

/-- Before the role documents, none is looked for and none is written. -/
theorem callsIn_opening : plan.opening.CallsIn fun c => ¬ c.IsSeeding :=
  Program.callsIn_bind trivial fun _ =>
    Program.callsIn_bind (within_principalStep.callsIn.mono (not_isSeeding_of_kind (by decide))) fun _ =>
      Program.callsIn_bind (Program.callsIn_perform (not_or.2 ⟨nofun, nofun⟩)) fun _ =>
        Program.callsIn_bind
          (within_ensureCollections.callsIn.mono (not_isSeeding_of_kind (by decide))) fun _ =>
          Program.callsIn_bind
            (within_ensureIndexes.callsIn.mono (not_isSeeding_of_kind (by decide))) fun _ => trivial

/-- From there on, documents are looked for and written in a collection that is looked up, and that is
all. -/
theorem callsIn_closing (outcomes : List Outcome) :
    (plan.closing now outcomes).CallsIn fun c => c.kind = .collection ∨ c.IsSeeding := by
  refine Program.callsIn_bind (within_seedStep.callsIn.mono fun c hc => ?_) fun _ => trivial
  simpa [Call.IsSeeding] using hc

/-- **Indexes come first.**  Whatever befell the calls of a run before: when it looks for a role document or
writes one, every declared index of every declared collection is reported under its name as it is declared.
From there on the run creates no collection, no index and no user. -/
theorem provision_indexes_first (hv : plan.spec.Valid) {c : Call}
    {next : Except Failure c.Reply → Program Report}
    (h : Program.LeadsTo .any (plan.provision now, s) (.call c next, t)) (hc : c.IsSeeding) :
    (∀ d ∈ plan.spec.collections, ∀ i ∈ d.indexes, ∃ info,
      (t.indexInformation plan.database d.name).lookup i.indexName = some info ∧
        i.matches? info = .ok true) ∧
    ∀ (later : Call) next' u, Program.LeadsTo .any (.call c next, t) (.call later next', u) →
      later.kind ∉ [.createCollection, .createIndexes, .command] := by
  -- nothing is asked of an index that the server reports by itself, so the undertaking is not steady
  let U : Undertaking := ⟨plan, fun _ => True, False, s⟩
  have hopening : plan.opening.Assures (U.setting .any)
      (fun _ t => ∀ p ∈ plan.spec.places, plan.Indexed t p) (U.Failed .any) s :=
    (Undertaking.assures_opening (U := U) hv False.elim Undertaking.reach_origin).mono
      (fun _ _ hend => hend.1) fun _ _ hbad => hbad
  have hkind {d : Call} (hd : d.kind = .collection ∨ d.IsSeeding) :
      d.kind ∉ [.createCollection, .createIndexes, .command] := by
    rcases hd with hd | hd | hd <;> rw [hd] <;> decide
  rw [provision_eq] at h
  obtain ⟨hindexed, hcalls⟩ := Program.LeadsTo.in_phase (C := U.setting .any) h (fun hno => hno hc)
    callsIn_opening callsIn_closing hopening (fun _ => Undertaking.moves_refl)
    fun d v u hd hall p hp => indexed_answer (fun heq => hkind hd (by simp [heq])) (hall p hp)
  refine ⟨fun d hd i hi => ?_, fun later next' u hlater => ?_⟩
  · exact (hindexed (d.name, i) (SeedSpec.mem_places.2 ⟨d, hd, rfl, hi⟩)).exists_reported
  · exact hkind (hcalls.leadsTo hlater).1

/-- The creation of the collection of users is refused as if it were there, and no document is seen. -/
theorem provision_indexes_first_builtIn :
    let look : Call := .findOne "app" rolesCollection [("code", .str "admin")]
    ∃ next t, Program.LeadsTo .any (builtIn.provision .epoch, .drifted) (.call look next, t) ∧
      (∀ d ∈ builtIn.spec.collections, ∀ i ∈ d.indexes, ∃ info,
        (t.indexInformation builtIn.database d.name).lookup i.indexName = some info ∧
          i.matches? info = .ok true) ∧
      ∀ (later : Call) next' u, Program.LeadsTo .any (.call look next, t) (.call later next', u) →
        later.kind ∉ [.createCollection, .createIndexes, .command] := by
  intro look
  let refused : Fault :=
    ⟨.createCollection, none, 0, 1, .ofDriver .operation "ns exists" (some 48) none none⟩
  let run := (builtIn.provision .epoch).run ⟨[], true⟩ .drifted [refused]
  have hcourse : Program.Course .any (builtIn.provision .epoch) .drifted run.calls run.result
      run.server := Program.course_run trivial _ _ _ fun _ _ _ => trivial
  have hcalls : run.calls = run.calls.take 29 ++ look :: run.calls.drop 30 := by decide +kernel
  obtain ⟨next, t, hleads, -⟩ := hcourse.comes_to hcalls
  exact ⟨next, t, hleads, provision_indexes_first (by decide +kernel) hleads (.inl rfl)⟩

end Plan

end Bringup
