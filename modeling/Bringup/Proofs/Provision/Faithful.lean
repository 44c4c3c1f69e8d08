import Bringup.Proofs.Provision.Convergence
import Bringup.Proofs.Provision.Trail

/-!
# The report of a run is a faithful account

* `Plan.Moment` : an object of a run was left as it was until its turn, then something was done to it, and
  then it was left as it had become;
* `Trail.moments` : every object of a trail has its moment, in the order of the report;
* `Plan.Tells` : an action says of an object whether it was created, rewritten or left as it was;
* `Plan.provision_faithful` : a report has an outcome for each object, it tells of a change just when the
  server has changed, and without faults each outcome tells what became of its object;
* `Plan.not_tells_of_refused` : with faults an outcome may tell less than what happened, as the creation of
  an index brings a collection into being whose own creation was refused.
-/

namespace Bringup

/-- The step of an outcome and what it names. -/
def Outcome.label (o : Outcome) : Step × String := (o.step, o.target)

/-- The step that deals with an object and what names it. -/
def Object.label (o : Object) : Step × String := (o.step, o.target)

namespace Plan

/-- The action says of the object what a run from one server to the other did to it. -/
structure Tells (plan : Plan) (o : Object) (action : Action) (s t : Server) : Prop where
  created : action = .created ↔ plan.Absent o s ∧ ¬ plan.Absent o t
  updated : action = .updated ↔ plan.Rewritten o s t
  kept : action = .skipped ∨ action = .unchanged → plan.Same o s t

/-- The object was left as it was until something was done to it, and then as it had become; of a collection
the latter is said only when it was there after this. -/
def Moment (plan : Plan) (now : Instant) (sure : Prop) (o : Object) (action : Action)
    (s t : Server) : Prop :=
  ∃ u w, plan.Same o s u ∧ plan.Traced (plan.roleDocuments s) (plan.roleDocuments u) ∧
    plan.Deed now sure o action u w ∧ ((∀ n, o = .collection n → plan.Holds w n) → plan.Same o w t)

variable {plan : Plan} {now : Instant} {sure : Prop} {o : Object} {action : Action}
  {objects : List Object} {outcomes : List Outcome} {s t : Server} {old : List Fields}

/-! ### Trails -/

namespace Trail

/-- The outcomes of a trail are those of its objects. -/
theorem labels (h : plan.Trail now sure objects outcomes s t) :
    outcomes.map Outcome.label = objects.map Object.label := by
  induction h with
  | nil => rfl
  | cons _ _ ih => exact congrArg _ ih

/-- A trail on which nothing was recorded has left the server as it was. -/
theorem eq_of_quiet (h : plan.Trail now sure objects outcomes s t)
    (hquiet : ∀ outcome ∈ outcomes, outcome.action ≠ .created ∧ outcome.action ≠ .updated) :
    t = s := by
  induction h with
  | nil => rfl
  | cons hdeed _ ih =>
    obtain ⟨hfirst, hrest⟩ := List.forall_mem_cons.1 hquiet
    exact (ih hrest).trans (hdeed.eq_of_quiet hfirst)

theorem traced (h : plan.Trail now sure objects outcomes s t) (hv : plan.spec.Valid)
    (hid : Identified old) (htraced : plan.Traced old (plan.roleDocuments s))
    (hobjects : objects ⊆ plan.objects) : plan.Traced old (plan.roleDocuments t) := by
  induction h with
  | nil => exact htraced
  | cons hdeed _ ih =>
    obtain ⟨ho, hobjects⟩ := List.cons_subset.1 hobjects
    exact ih (hdeed.traced hv hid htraced ho) hobjects

/-- A trail leaves the other objects as they were, provided that a collection is there before something is
done in collections. -/
theorem same (h : plan.Trail now sure objects outcomes s t) (hv : plan.spec.Valid)
    (hid : Identified old) (htraced : plan.Traced old (plan.roleDocuments s))
    (hobjects : objects ⊆ plan.objects) (ho : o ∈ plan.objects) (hother : o ∉ objects)
    (hthere : ∀ n, o = .collection n → (∃ o' ∈ objects, o'.IsContent) → plan.Holds s n) :
    plan.Same o s t := by
  induction h with
  | nil => exact same_refl
  | cons hdeed _ ih =>
    obtain ⟨hfirst, hobjects⟩ := List.cons_subset.1 hobjects
    obtain ⟨hne, hother⟩ := not_or.1 (List.mem_cons.not.1 hother)
    have hstep := hdeed.same hv hid htraced hfirst ho hne
      fun n hn hcontent => hthere n hn ⟨_, List.mem_cons_self, hcontent⟩
    refine hstep.trans (ih (hdeed.traced hv hid htraced hfirst) hobjects hother ?_)
    rintro n hn ⟨o', ho', hcontent⟩
    exact hdeed.holds (hthere n hn ⟨o', List.mem_cons_of_mem _ ho', hcontent⟩)

/-- Every object of a run has its moment. -/
theorem moments (h : plan.Trail now sure plan.objects outcomes s t) (hv : plan.spec.Valid)
    (hid : Identified (plan.roleDocuments s)) :
    List.Forall₂ (fun o outcome => plan.Moment now sure o outcome.action s t)
      plan.objects outcomes := by
  -- the trail goes on from any server to which a trail on the first objects has led
  suffices key : ∀ {rest told u}, plan.Trail now sure rest told u t → ∀ {before heard},
      plan.objects = before ++ rest → plan.Trail now sure before heard s u →
        List.Forall₂ (fun o outcome => plan.Moment now sure o outcome.action s t) rest told from
    key h (List.nil_append _).symm .nil
  clear h
  intro rest told u htrail
  induction htrail with
  | nil => exact fun _ _ => .nil
  | @cons o action rest told u w t hdeed hrest ih =>
    intro before heard hobjects hbefore
    have hbeforeObjects : before ⊆ plan.objects := hobjects ▸ List.subset_append_left _ _
    have hrestObjects : rest ⊆ plan.objects := hobjects ▸ fun o' ho' => by simp [ho']
    have ho : o ∈ plan.objects := by rw [hobjects]; simp
    have hpairwise := objects_pairwise hv
    rw [hobjects] at hpairwise
    obtain ⟨-, hlater, hearlier⟩ := List.pairwise_append.1 hpairwise
    have htraced := hbefore.traced hv hid traced_refl hbeforeObjects
    refine .cons ⟨u, w, ?_, htraced, hdeed, fun hthere => ?_⟩
      (ih (by simpa using hobjects) (hbefore.append (.single hdeed)))
    -- nothing is done in collections before a collection has its turn
    · refine hbefore.same hv hid traced_refl hbeforeObjects ho
        (fun hmem => (hearlier o hmem o List.mem_cons_self).1 rfl) ?_
      rintro n rfl ⟨o', ho', hcontent⟩
      exact ((hearlier o' ho' _ List.mem_cons_self).2 hcontent).elim
    · exact hrest.same hv hid (hdeed.traced hv hid htraced ho) hrestObjects ho
        (fun hmem => ((List.pairwise_cons.1 hlater).1 o hmem).1 rfl) fun n hn _ => hthere n hn

end Trail

/-! ### Moments -/

/-- Nothing but that it was left as it was can be told of an object that was. -/
theorem Same.tells (h : plan.Same o s t) (hid : Identified (plan.roleDocuments s))
    (hkept : action = .skipped ∨ action = .unchanged) : plan.Tells o action s t where
  created := iff_of_false (by rcases hkept with rfl | rfl <;> nofun)
    fun hcreated => hcreated.2 (h.absent_iff.2 hcreated.1)
  updated := iff_of_false (by rcases hkept with rfl | rfl <;> nofun) (h.not_rewritten hid)
  kept := fun _ => h

namespace Moment

theorem of_created (h : plan.Moment now sure o .created s t) :
    plan.Absent o s ∧ ¬ plan.Absent o t := by
  obtain ⟨u, w, hbefore, -, hdeed, hafter⟩ := h
  obtain ⟨habsent, hpresent⟩ := hdeed.absent_of_created
  have hafter := hafter fun n hn => by
    subst hn
    exact Option.isSome_iff_ne_none.2 hpresent
  exact ⟨hbefore.absent_iff.1 habsent, fun h => hpresent (hafter.absent_iff.1 h)⟩

theorem of_updated (h : plan.Moment now sure o .updated s t) (hv : plan.spec.Valid)
    (hid : Identified (plan.roleDocuments s)) (ho : o ∈ plan.objects) : plan.Rewritten o s t := by
  obtain ⟨u, w, hbefore, htraced, hdeed, hafter⟩ := h
  have hrewritten := hdeed.rewritten_of_updated hv hid htraced ho
  refine hrewritten.of_same hbefore (hafter fun n hn => ?_)
  subst hn
  exact hrewritten.elim

/-- What was left as it was in its moment was left so by the whole run. -/
theorem of_kept (h : plan.Moment now sure o action s t)
    (hkept : action = .skipped ∨ action = .unchanged) (hsure : sure) : plan.Same o s t := by
  obtain ⟨u, w, hbefore, -, hdeed, hafter⟩ := h
  have hthere : ∀ n, o = .collection n → plan.Holds w n := by
    rintro n rfl
    exact hdeed.holds_collection hsure
  obtain rfl : w = u := hdeed.eq_of_quiet (by rcases hkept with rfl | rfl <;> exact ⟨nofun, nofun⟩)
  exact hbefore.trans (hafter hthere)

/-- The moment of an object decides what is told of it, when no failure came from nowhere. -/
theorem tells (h : plan.Moment now sure o action s t) (hv : plan.spec.Valid)
    (hid : Identified (plan.roleDocuments s)) (ho : o ∈ plan.objects) (hsure : sure) :
    plan.Tells o action s t := by
  -- the three things that can be told exclude each other, so each is told only when it is so
  cases action with
  | created =>
    obtain ⟨habsent, hpresent⟩ := h.of_created
    exact ⟨iff_of_true rfl ⟨habsent, hpresent⟩, iff_of_false nofun habsent.not_rewritten, nofun⟩
  | updated =>
    have hrewritten := h.of_updated hv hid ho
    exact ⟨iff_of_false nofun fun habsent => habsent.1.not_rewritten hrewritten,
      iff_of_true rfl hrewritten, nofun⟩
  | skipped => exact (h.of_kept (.inl rfl) hsure).tells hid (.inl rfl)
  | unchanged => exact (h.of_kept (.inr rfl) hsure).tells hid (.inr rfl)

/-- What was created or updated has changed the server. -/
theorem ne (h : plan.Moment now sure o action s t) (hv : plan.spec.Valid)
    (hid : Identified (plan.roleDocuments s)) (ho : o ∈ plan.objects)
    (hchange : action = .created ∨ action = .updated) : t ≠ s := by
  rintro rfl
  rcases hchange with rfl | rfl
  · exact h.of_created.2 h.of_created.1
  · exact same_refl.not_rewritten hid (h.of_updated hv hid ho)

end Moment

/-! ### Reports -/

/-- The report of a run on its trail tells of a change just when the server has changed. -/
theorem Trail.changedAnything_iff {report : Report}
    (h : plan.Trail now sure plan.objects report.outcomes s t) (hv : plan.spec.Valid)
    (hid : Identified (plan.roleDocuments s)) : report.changedAnything = true ↔ t ≠ s := by
  have hchanged : report.changedAnything = true ↔
      ∃ outcome ∈ report.outcomes, outcome.action = .created ∨ outcome.action = .updated := by
    simp [Report.changedAnything]
  rw [hchanged]
  constructor
  · rintro ⟨outcome, houtcome, hchange⟩
    obtain ⟨i, hi, rfl⟩ := List.getElem_of_mem houtcome
    have hmoments := h.moments hv hid
    have hi' : i < plan.objects.length := by rwa [hmoments.length_eq]
    exact (hmoments.get hi' hi).ne hv hid (List.getElem_mem hi') hchange
  · intro hne
    by_contra hquiet
    refine hne (h.eq_of_quiet fun outcome houtcome => ?_)
    exact ⟨fun hcreated => hquiet ⟨outcome, houtcome, .inl hcreated⟩,
      fun hupdated => hquiet ⟨outcome, houtcome, .inr hupdated⟩⟩

/-- **The report is faithful.**  If a run ends with a report, in whatever way its calls failed and however
much its reader overlooked, then the report has one outcome for each object of the run, in the order in
which the run deals with them, and it tells of a change just when the server has changed.  Where no fault
was set, each outcome tells what became of its object. -/
theorem provision_faithful (hv : plan.spec.Valid) (hid : Identified (plan.roleDocuments s))
    {sight : Sight} {faults : List Fault} {report : Report}
    (h : ((plan.provision now).run sight s faults).result = .ok report) :
    let t := ((plan.provision now).run sight s faults).server
    report.outcomes.map Outcome.label = plan.objects.map Object.label ∧
      plan.objects.Nodup ∧
      (report.changedAnything = true ↔ t ≠ s) ∧
      (faults = [] → List.Forall₂ (fun o outcome => plan.Tells o outcome.action s t)
        plan.objects report.outcomes) := by
  intro t
  -- every call may be struck unless there are no faults at all
  let W : Weather := ⟨fun _ _ => faults ≠ [], fun _ => True⟩
  have hsight : W.sights sight := trivial
  have hcourse := Program.course_run hsight (plan.provision now) s faults
    fun f hf _ => List.ne_nil_of_mem hf
  rw [h] at hcourse
  have htrail := (assures_trail now hv).course_alone hcourse
  refine ⟨htrail.labels, (objects_pairwise hv).imp And.left, htrail.changedAnything_iff hv hid,
    fun hnone => ?_⟩
  have hsure : W.SparesCalls := fun _ _ hstrike => hstrike hnone
  have hmoments := (List.forall₂_and_left _ _).2 ⟨fun _ ho => ho, htrail.moments hv hid⟩
  exact hmoments.imp fun o outcome ⟨ho, hmoment⟩ => hmoment.tells hv hid ho hsure

theorem provision_faithful_stale :
    let run := (builtIn.provision .epoch).run ⟨["users"], true⟩ .drifted []
    ∃ report, run.result = .ok report ∧
      report.outcomes.map Outcome.label = builtIn.objects.map Object.label ∧
      builtIn.objects.Nodup ∧
      (report.changedAnything = true ↔ run.server ≠ .drifted) ∧
      List.Forall₂ (fun o outcome => builtIn.Tells o outcome.action .drifted run.server)
        builtIn.objects report.outcomes := by
  intro run
  have hok : run.result.isOk = true := by decide +kernel
  cases hresult : run.result with
  | error e => rw [hresult] at hok; cases hok
  | ok report =>
    obtain ⟨hlabels, hnodup, hchanged, htells⟩ :=
      provision_faithful (by decide +kernel) (by decide +kernel) hresult
    exact ⟨report, rfl, hlabels, hnodup, hchanged, htells rfl⟩

/-- A collection whose creation is refused as if it were there is told of as skipped, although the creation
of its index has brought it into being. -/
theorem not_tells_of_refused :
    let run := (builtIn.provision .epoch).run .clear .empty [refusedCollection]
    (∃ report, run.result = .ok report ∧
      (Object.collection "users").outcome .skipped ∈ report.outcomes) ∧
      ¬ builtIn.Tells (.collection "users") .skipped .empty run.server := by
  intro run
  refine ⟨?_, fun htells => ?_⟩
  · have htold : (run.result.toOption.any fun report =>
        decide ((Object.collection "users").outcome .skipped ∈ report.outcomes)) = true := by
      decide +kernel
    cases hresult : run.result with
    | error e => rw [hresult] at htold; cases htold
    | ok report =>
      rw [hresult] at htold
      exact ⟨report, rfl, of_decide_eq_true htold⟩
  · have hthere : (run.server.collection? builtIn.database "users").isSome = true := by
      decide +kernel
    have habsent := (htells.kept (.inl rfl)).present.1 hthere
    cases habsent

end Plan

end Bringup
