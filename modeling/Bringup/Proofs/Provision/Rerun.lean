import Bringup.Proofs.Program.Reading
import Bringup.Proofs.Provision.Outline

/-!
# Runs that find everything there

* `Plan.quiet` : the setting of a run that nobody disturbs, and that must not change the server, nor make
  a call that could;
* `Plan.Quietly`, `Plan.quietly_provision` : a run on a server where everything is there keeps to this
  setting, and ends with a report in which nothing was done;
* `Plan.provision_idempotent` : so does every run after one that ended with a report.
-/

namespace Bringup

namespace Plan

variable (plan : Plan)

/-- The call creates nothing, and under the policy that reconciles it writes no document. -/
structure Idle (c : Call) : Prop where
  collections : c.kind ≠ .createCollection
  indexes : c.kind ≠ .createIndexes
  documents : plan.policy = .upsert → c.kind ≠ .updateOne

/-- The setting of a run that nobody disturbs and that must leave the server as it is. -/
def quiet : Setting where
  toWeather := .calm
  others s t := t = s
  own c s t := t = s ∧ plan.Idle c

end Plan

/-- Nothing was done. -/
def Outcome.Quiet (o : Outcome) : Prop := o.action = .skipped ∨ o.action = .unchanged

namespace Plan

variable {plan : Plan} {α : Type} {s : Server}

/-- Most kinds of calls create nothing and write nothing. -/
theorem idle_of_kind {c : Call} (k : CallKind) (h : c.kind = k)
    (hk : k ≠ .createCollection ∧ k ≠ .createIndexes ∧ k ≠ .updateOne) : plan.Idle c := by
  subst h
  exact ⟨hk.1, hk.2.1, fun _ => hk.2.2⟩

/-! ### Rules for this setting

It is the one of programs that only read, and their rules are those of `Program.Reads`. -/

/-- A program that ends at the same server with a value as is said. -/
def Quietly (plan : Plan) (ok : α → Prop) (p : Program α) (s : Server) : Prop :=
  p.Assures plan.quiet (fun a t => ok a ∧ t = s) (fun _ _ => False) s

theorem quietly_done {ok : α → Prop} {a : α} (h : ok a) : plan.Quietly ok (.done a) s := ⟨h, rfl⟩

theorem quietly_bind {β : Type} {p : Program α} {f : α → Program β} {ok : α → Prop} {ok' : β → Prop}
    (h : plan.Quietly ok p s) (next : ∀ a, ok a → plan.Quietly ok' (f a) s) :
    plan.Quietly ok' (p.bind f) s := Program.reads_bind h next

theorem quietly_say {entry : Entry} : plan.Quietly (fun _ => True) (.say entry) s := ⟨trivial, rfl⟩

/-- A call that leaves the server as it is. -/
theorem quietly_perform {c : Call} {ok : c.Reply → Prop} (hidle : plan.Idle c) {reply : c.Reply}
    (hanswer : s.answer .clear c = (.ok reply, s)) (hok : ok reply) :
    plan.Quietly ok (.perform c) s := Program.reads_perform hidle hanswer hok

theorem quietly_rescue {ok : α → Prop} {p : Program α} {handler : Failure → Program α}
    (h : plan.Quietly ok p s) : plan.Quietly ok (p.rescue handler) s := Program.reads_rescue h

/-- A loop whose items each end as is said. -/
theorem quietly_each {β : Type} {f : α → Program β} {items : List α} {ok : β → Prop}
    (h : ∀ a ∈ items, plan.Quietly ok (f a) s) :
    plan.Quietly (fun bs => ∀ b ∈ bs, ok b) (Program.each f items) s := by
  refine (Program.reads_each h).mono (fun bs t ⟨hlink, hsame⟩ => ⟨fun b hb => ?_, hsame⟩)
    fun _ _ hf => hf
  obtain ⟨i, hi, rfl⟩ := List.getElem_of_mem hb
  exact hlink.get (by rw [hlink.length_eq]; exact hi) hi

/-! ### The steps -/

/-- The outcomes of a step in which nothing was done. -/
def AllQuiet (outcomes : List Outcome) : Prop := ∀ o ∈ outcomes, o.Quiet

theorem quietly_createPrincipal (h : plan.spec.principal.name ∈ s.users) :
    plan.createPrincipal.Assures plan.quiet (fun _ _ => False)
      (fun e t => e.isDriver = true ∧ e.saysUserExists = true ∧ t = s) s := by
  refine Program.assures_bind (Program.assures_perform (fun _ _ _ he => he.elim) fun t ht v _ => ?_)
  obtain rfl : t = s := ht
  refine ⟨⟨rfl, idle_of_kind .database rfl (by decide)⟩, ?_⟩
  refine Program.assures_bind (Program.assures_perform (fun _ _ _ he => he.elim) fun u hu w _ => ?_)
  obtain rfl : u = t := hu
  rw [Server.answer_createUser, if_pos h]
  exact ⟨⟨rfl, idle_of_kind .command rfl (by decide)⟩, rfl, rfl, rfl⟩

theorem quietly_ensurePrincipal (h : plan.spec.principal.name ∈ s.users) :
    plan.Quietly Outcome.Quiet plan.ensurePrincipal s := by
  refine Program.assures_bind (Program.assures_rescue
    ((quietly_createPrincipal h).mono (fun _ _ h => h.elim) fun e t ht => ?_))
  obtain ⟨hdriver, hexists, rfl⟩ := ht
  rw [if_pos hdriver, if_pos hexists]
  exact Program.assures_done (quietly_bind quietly_say fun _ _ => quietly_done (.inl rfl))

theorem quietly_principalStep (h : plan.HasUser s) :
    plan.Quietly AllQuiet plan.principalStep s := by
  unfold principalStep
  split
  · exact quietly_bind quietly_say fun _ _ => quietly_done (by simp [AllQuiet])
  · rename_i hskip
    refine quietly_bind (quietly_ensurePrincipal (h (by simpa using hskip))) fun o ho => ?_
    exact quietly_done (by simpa [AllQuiet] using ho)

theorem quietly_ensureCollections (h : plan.Furnished s) :
    plan.Quietly AllQuiet plan.ensureCollections s := by
  have hlist : plan.Quietly (fun (existing : List String) => ∀ n, plan.Holds s n → n ∈ existing)
      (plan.guarded .collections (.perform (.listCollections plan.database))) s := by
    refine quietly_rescue (quietly_perform (idle_of_kind .listCollections rfl (by decide)) rfl ?_)
    intro n hn
    exact List.mem_filter.2 ⟨Server.mem_listed.2 hn, by simp [Sight.clear]⟩
  refine quietly_bind hlist fun existing hexisting => quietly_each fun n hn => ?_
  unfold ensureCollection
  rw [if_pos (List.contains_iff_mem.2 (hexisting n (h.collections n hn)))]
  exact quietly_bind quietly_say fun _ _ => quietly_done (.inl rfl)

theorem quietly_ensureIndex {n : String} {i : IndexSpec} {existing : Assoc IndexInfo}
    {info : IndexInfo} (hinfo : existing.lookup i.indexName = some info)
    (hmatch : i.matches? info = .ok true) :
    plan.Quietly Outcome.Quiet (plan.ensureIndex n existing i) s := by
  -- a declared index was read, so the branch that makes it is not taken
  simp only [ensureIndex, hinfo, hmatch]
  have hsame : plan.Quietly (· = true) (Program.ofExcept (.ok true)) s := quietly_done rfl
  refine quietly_bind hsame fun same hsame => ?_
  rw [if_pos hsame]
  exact quietly_bind quietly_say fun _ _ => quietly_done (.inl rfl)

theorem quietly_ensureCollectionIndexes {c : CollectionSpec} (hc : c ∈ plan.spec.collections)
    (h : plan.Complete s) : plan.Quietly AllQuiet (plan.ensureCollectionIndexes c) s := by
  have hholds : plan.Holds s c.name := h.collections _ (List.mem_map_of_mem hc)
  unfold ensureCollectionIndexes
  split
  · exact quietly_done (by simp [AllQuiet])
  have hlook : plan.Quietly (fun _ => True) (.perform (.collection plan.database c.name)) s :=
    quietly_perform (idle_of_kind .collection rfl (by decide)) rfl trivial
  have hread : plan.Quietly (fun existing => existing = s.indexInformation plan.database c.name)
      (plan.guarded .indexes (.perform (.indexInformation plan.database c.name))) s :=
    quietly_rescue (quietly_perform (idle_of_kind .indexInformation rfl (by decide)) rfl rfl)
  refine quietly_bind hlook fun _ _ => quietly_bind hread fun existing hexisting => ?_
  refine quietly_each fun i hi => ?_
  obtain ⟨-, info, hinfo, hmatch⟩ := h.indexes (c.name, i) (SeedSpec.mem_places.2 ⟨c, hc, rfl, hi⟩)
  refine quietly_ensureIndex ?_ hmatch
  rw [hexisting, Server.lookup_indexInformation hholds]
  exact hinfo

theorem quietly_ensureIndexes (h : plan.Complete s) :
    plan.Quietly AllQuiet plan.ensureIndexes s := by
  refine quietly_bind (quietly_each fun c hc => quietly_ensureCollectionIndexes hc h)
    fun outcomes hall => quietly_done fun o ho => ?_
  obtain ⟨os, hos, ho⟩ := List.mem_flatten.1 ho
  exact hall os hos o ho

theorem quietly_writeRole {r : RoleSeed} {now : Instant}
    (h : plan.Settled (plan.roleDocuments s) r) :
    plan.Quietly (fun action => action = .skipped ∨ action = .unchanged) (plan.writeRole r now) s := by
  obtain ⟨d, hd, hset⟩ := h
  have hfound : (s.documents plan.database rolesCollection).find?
      (matchesFilter (codeFilter r)) = some d := hd
  unfold writeRole
  cases hpolicy : plan.policy with
  -- the call may insert, but it finds the document
  | skip =>
    have hinsert : plan.Quietly (fun inserted => inserted = (none : Option Value)) (.perform
        (.insertIfAbsent plan.database rolesCollection (codeFilter r) (r.document now))) s := by
      refine quietly_perform ⟨nofun, nofun, ?_⟩ ?_ rfl
      · rw [hpolicy]
        intro h
        cases h
      · rw [Server.answer_insertIfAbsent, hfound]
        rfl
    refine quietly_bind hinsert fun inserted hnone => ?_
    obtain rfl : inserted = none := hnone
    exact quietly_done (.inl rfl)
  | upsert =>
    have hfind : plan.Quietly (fun stored => stored = some d) (.perform
        (.findOne plan.database rolesCollection (codeFilter r))) s := by
      have hanswer : s.answer .clear (.findOne plan.database rolesCollection (codeFilter r)) =
          (.ok (some d), s) := by
        rw [← hfound]
        rfl
      exact quietly_perform (idle_of_kind .findOne rfl (by decide)) hanswer rfl
    refine quietly_bind hfind fun stored hstored => ?_
    obtain rfl : stored = some d := hstored
    change plan.Quietly _ (plan.updateRole r now d) s
    rw [updateRole, hset hpolicy]
    exact quietly_done (.inr rfl)

theorem quietly_seedStep {now : Instant} (h : plan.Complete s) :
    plan.Quietly AllQuiet (plan.seedStep now) s := by
  unfold seedStep
  split
  · exact quietly_bind quietly_say fun _ _ => quietly_done (by simp [AllQuiet])
  · rename_i hskip
    unfold seedRoles
    split
    · exact quietly_done (by simp [AllQuiet])
    have hlook : plan.Quietly (fun _ => True) (.perform (.collection plan.database rolesCollection))
        s := quietly_perform (idle_of_kind .collection rfl (by decide)) rfl trivial
    refine quietly_bind hlook fun _ _ => quietly_each fun r hr => ?_
    have hseed : r ∈ plan.seeds := by rw [seeds, if_neg hskip]; exact hr
    refine quietly_bind (quietly_rescue (quietly_writeRole (h.roles r hseed))) fun action hact => ?_
    exact quietly_bind quietly_say fun _ _ => quietly_done hact

/-- A run on a server where everything is there does nothing. -/
theorem quietly_provision {now : Instant} (h : plan.Complete s) :
    plan.Quietly (fun report => AllQuiet report.outcomes) (plan.provision now) s := by
  have hlook : plan.Quietly (fun _ => True) (.perform (.database plan.database)) s :=
    quietly_perform (idle_of_kind .database rfl (by decide)) rfl trivial
  refine quietly_bind quietly_say fun _ _ => ?_
  refine quietly_bind (quietly_principalStep h.user) fun principal hprincipal => ?_
  refine quietly_bind hlook fun _ _ => ?_
  refine quietly_bind (quietly_ensureCollections h.toFurnished) fun collections hcollections => ?_
  refine quietly_bind (quietly_ensureIndexes h) fun indexes hindexes => ?_
  refine quietly_bind (quietly_seedStep h) fun seeds hseeds => ?_
  refine quietly_bind quietly_say fun _ _ => quietly_done fun o ho => ?_
  simp only [List.mem_append] at ho
  rcases ho with ((ho | ho) | ho) | ho
  · exact hprincipal o ho
  · exact hcollections o ho
  · exact hindexes o ho
  · exact hseeds o ho

/-- **Idempotence.**  After a run that ended with a report, a second one at any time ends with a report in
which nothing was done, makes no call that creates anything, under the policy that reconciles none that
writes a document, and leaves the server as the first one left it. -/
theorem provision_idempotent {now later : Instant} (hv : plan.spec.Valid)
    (hid : Identified (plan.roleDocuments s))
    (h : ((plan.provision now).run .clear s []).result.isOk = true) :
    let first := (plan.provision now).run .clear s []
    let second := (plan.provision later).run .clear first.server []
    (∃ report, second.result = .ok report ∧ AllQuiet report.outcomes) ∧
      (∀ c ∈ second.calls, plan.Idle c) ∧ second.server = first.server := by
  intro first second
  have hfinished := (finished_provision hv hid now).2
  change (plan.undertaking s).Finished first.result first.server at hfinished
  have hcomplete : plan.Complete first.server := by
    cases hr : first.result with
    | ok report =>
      rw [hr] at hfinished
      exact hfinished
    | error e =>
      rw [show ((plan.provision now).run .clear s []).result = .error e from hr] at h
      cases h
  have hcourse := Program.course_run_calm (plan.provision later) first.server
  obtain ⟨hend, hcalls⟩ := (quietly_provision hcomplete).course hcourse rfl fun _ => rfl
  obtain ⟨report, hreport, hquiet, hsame⟩ := hend.exists_ok
  refine ⟨⟨report, hreport, hquiet⟩, fun c hc => ?_, hsame⟩
  obtain ⟨u, w, -, hidle⟩ := hcalls c hc
  exact hidle

theorem provision_idempotent_builtIn :
    let first := (builtIn.provision .epoch).run .clear .drifted []
    let second := (builtIn.provision ⟨1, none⟩).run .clear first.server []
    (∃ report, second.result = .ok report ∧ AllQuiet report.outcomes) ∧
      (∀ c ∈ second.calls, builtIn.Idle c) ∧ second.server = first.server :=
  provision_idempotent (by decide +kernel) (by decide +kernel) (by decide +kernel)

end Plan

end Bringup
