import Bringup.Proofs.Server.Driver
import Bringup.Proofs.Provision.FailStop

/-!
# How a run ends, told from the replies to its calls

* `Plan.guard?` : the step that guards a call, if any does;
* `Plan.Excused`, `Plan.AllExcused` : the failures that the run takes for a sign that an object is there
  already;
* `Plan.raised` : what becomes of any other failure of a call;
* `Plan.Stops` : how a run ends with a failure: it is that of its last call, as `raised` says, or one of
  the run's own;
* `Plan.recounts_provision` : every run that ends with a report has excused all failures of its calls, and
  every other one ends as `Stops` says.

There is one theorem for each step of the run.  Nothing is assumed of the specification, of the server or
of the failures.
-/

namespace Bringup

/-- The call only looks up a database or a collection by its name. -/
def Call.IsLookup (c : Call) : Prop := c.kind = .database ∨ c.kind = .collection

namespace Plan

variable (plan : Plan)

/-- The step that guards the call that is made after `k` others.  The first look-up of a database is that
of the principal, unless it is skipped; the other look-ups are made outside of any guard. -/
def guard? (k : Nat) : Call → Option Step
  | .database _ => if plan.skipPrincipal = false ∧ k = 0 then some .principal else none
  | .command .. => some .principal
  | .listCollections .. | .createCollection .. => some .collections
  | .indexInformation .. | .createIndex .. => some .indexes
  | .findOne .. | .insertIfAbsent .. | .setFields .. => some .seed
  | .connect .. | .collection .. | .countDocuments .. | .find .. | .close => none

/-- The step that makes the call after `k` others takes its failure for a sign that the object is there
already. -/
def Excused (k : Nat) (c : Call) (e : Failure) : Prop :=
  match plan.guard? k c with
  | some .principal => RecoversUser c e
  | _ => RecoversCollection c e

/-- All failures so far were taken for such a sign. -/
def AllExcused (xs : List Exchange) : Prop :=
  ∀ k c e, xs[k]? = some ⟨c, .error e⟩ → plan.Excused k c e

/-- The failure that a run raises when a call after `k` others fails: a failure of the driver is given a
class and the step that guards the call, and any other, or one without a guard, is raised as it is. -/
def raised (k : Nat) (c : Call) (e : Failure) : Failure :=
  match plan.guard? k c with
  | some step => if e.isDriver then e.classify (some step.name) else e
  | none => e

/-- A run ends with a failure of its own, or because its last call has failed.  Without a guard this call
is a look-up. -/
inductive Stops (own : Failure → Prop) : Failure → List Exchange → Prop
  | own {e : Failure} {xs : List Exchange} : plan.AllExcused xs → own e → Stops own e xs
  | call {c : Call} {e : Failure} {xs : List Exchange} : plan.AllExcused xs →
    ¬ plan.Excused xs.length c e → (plan.guard? xs.length c = none → c.IsLookup) →
      Stops own (plan.raised xs.length c e) (xs ++ [⟨c, .error e⟩])

/-- The failures that a run may end with by itself: an index is there with another definition, a direction
that was read is no number, or a document that was read has no identity. -/
structure Owns (N : Exchange → Prop) (own : Failure → Prop) : Prop where
  conflict : ∀ target index info, own (indexConflict target index info)
  direction : ∀ database name existing, N ⟨.indexInformation database name, .ok existing⟩ →
    ∀ index info e, List.lookup (IndexSpec.indexName index) existing = some info →
      index.matches? info = .error e → own e
  identity : ∀ database name filter stored,
    N ⟨.findOne database name filter, .ok (some stored)⟩ → List.lookup "_id" stored = none →
      own (.ofRuntime .key "_id")

variable {plan} {N : Exchange → Prop} {own : Failure → Prop} {xs : List Exchange} {c : Call}
  {e : Failure} {k : Nat} {step : Step} {α : Type}

/-! ### Failures that are excused -/

theorem allExcused_nil : plan.AllExcused [] := fun _ _ _ h => by cases h

theorem AllExcused.concat {x : Exchange} (h : plan.AllExcused xs)
    (hx : ∀ e, x.reply = .error e → plan.Excused xs.length x.call e) :
    plan.AllExcused (xs ++ [x]) := by
  intro k c e hk
  by_cases hlt : k < xs.length
  · rw [List.getElem?_append_left hlt] at hk
    exact h k c e hk
  · rw [List.getElem?_append_right (Nat.le_of_not_lt hlt), List.getElem?_singleton] at hk
    split at hk
    · rename_i hzero
      obtain rfl : x = ⟨c, .error e⟩ := Option.some.inj hk
      obtain rfl : k = xs.length := by omega
      exact hx e rfl
    · cases hk

/-- An answer is no failure. -/
theorem AllExcused.answered (h : plan.AllExcused xs) (reply : c.Reply) :
    plan.AllExcused (xs ++ [⟨c, .ok reply⟩]) :=
  h.concat fun _ he => by cases he

theorem AllExcused.failed (h : plan.AllExcused xs) (he : plan.Excused xs.length c e) :
    plan.AllExcused (xs ++ [⟨c, .error e⟩]) :=
  h.concat fun _ he' => by
    obtain rfl := Except.error.inj he'
    exact he

/-- Only the creation of a collection is excused outside of the step of the principal. -/
theorem not_excused_of_kind (hguard : plan.guard? k c ≠ some .principal)
    (hkind : c.kind ≠ .createCollection) : ¬ plan.Excused k c e := by
  intro h
  unfold Excused at h
  split at h
  · exact hguard ‹_›
  · exact hkind h.1

/-- A call without a guard is never excused. -/
theorem not_excused_of_guard?_eq_none (hguard : plan.guard? k c = none) :
    ¬ plan.Excused k c e := by
  refine not_excused_of_kind (by rw [hguard]; exact nofun) ?_
  cases c with
  | createCollection => cases hguard
  | _ => exact nofun

/-! ### What a run raises -/

/-- A run that ends with no failure of its own raises what becomes of the failure of its last call. -/
theorem Stops.last (h : plan.Stops own e xs) (hown : ¬ own e) :
    ∃ before c d, xs = before ++ [⟨c, .error d⟩] ∧ ¬ plan.Excused before.length c d ∧
      (plan.guard? before.length c = none → c.IsLookup) ∧ e = plan.raised before.length c d := by
  cases h with
  | own _ he => exact absurd he hown
  | call _ hnot hlookup => exact ⟨_, _, _, rfl, hnot, hlookup, rfl⟩

/-- A run whose last call failed and is not excused raises what becomes of this failure. -/
theorem Stops.eq_raised {before : List Exchange} {d : Failure} (h : plan.Stops own e xs)
    (hxs : xs = before ++ [⟨c, .error d⟩]) (hd : ¬ plan.Excused before.length c d) :
    e = plan.raised before.length c d := by
  cases h with
  | own hall _ => exact absurd (hall _ _ _ (by simp [hxs])) hd
  | call _ _ _ =>
    obtain ⟨rfl, hx⟩ := List.append_inj' hxs rfl
    cases hx
    rfl

/-- A failure of the driver is raised with a class and the step that guards the call. -/
theorem raised_of_guard (hguard : plan.guard? k c = some step) (he : e.isDriver = true) :
    plan.raised k c e = .provision e.kindOf e.message (some step.name) (some e) := by
  rw [raised, hguard]
  exact (if_pos he).trans (Failure.classify_of_isDriver he)

theorem raised_of_no_guard (hguard : plan.guard? k c = none) : plan.raised k c e = e := by
  rw [raised, hguard]

/-! ### Rules for the calls of a run -/

/-- A call that a step guards has failed.  The step goes on when the failure is one of the driver and a
sign that the object is there. -/
def Struck (plan : Plan) (step : Step) (sign : Failure → Bool) (e : Failure)
    (xs : List Exchange) : Prop :=
  ∃ ys c, xs = ys ++ [⟨c, .error e⟩] ∧ plan.AllExcused ys ∧ plan.guard? ys.length c = some step ∧
    (plan.Excused ys.length c e ↔ e.isDriver = true ∧ sign e = true)

/-- A look-up without a guard. -/
theorem recounts_lookup (hlookup : c.IsLookup) (hxs : plan.AllExcused xs)
    (hguard : plan.guard? xs.length c = none) :
    (Program.perform c).Recounts N (fun _ ys => plan.AllExcused ys) (plan.Stops own) xs := by
  refine Program.recounts_perform (fun reply _ => hxs.answered reply) fun e _ => ?_
  have hstops : plan.Stops own (plan.raised xs.length c e) (xs ++ [⟨c, .error e⟩]) :=
    .call hxs (not_excused_of_guard?_eq_none hguard) fun _ => hlookup
  rwa [raised_of_no_guard hguard] at hstops

/-- A call that a step guards. -/
theorem recounts_call {sign : Failure → Bool} {ok : c.Reply → List Exchange → Prop}
    (hxs : plan.AllExcused xs) (hguard : plan.guard? xs.length c = some step)
    (hsign : ∀ e, plan.Excused xs.length c e ↔ e.isDriver = true ∧ sign e = true)
    (answered : ∀ reply, N ⟨c, .ok reply⟩ → plan.AllExcused (xs ++ [⟨c, .ok reply⟩]) →
      ok reply (xs ++ [⟨c, .ok reply⟩])) :
    (Program.perform c).Recounts N ok (plan.Struck step sign) xs :=
  Program.recounts_perform (fun reply hN => answered reply hN (hxs.answered reply))
    fun e _ => ⟨xs, c, rfl, hxs, hguard, hsign e⟩

/-- A guarded call that is not recovered from ends the run. -/
theorem Struck.stops {sign : Failure → Bool} (h : plan.Struck step sign e xs)
    (hsign : ¬ (e.isDriver = true ∧ sign e = true)) :
    plan.Stops own (if e.isDriver then e.classify (some step.name) else e) xs := by
  obtain ⟨ys, c, rfl, hys, hguard, hiff⟩ := h
  have hraised : plan.raised ys.length c e =
      if e.isDriver then e.classify (some step.name) else e := by rw [raised, hguard]
  rw [← hraised]
  exact .call hys (fun hexcused => hsign (hiff.1 hexcused)) fun hnone => by simp [hnone] at hguard

/-- What ends the guarded part of a step that recovers from nothing: its last call has failed, or it fails
by itself. -/
def Breaks (plan : Plan) (own : Failure → Prop) (step : Step) (e : Failure)
    (xs : List Exchange) : Prop :=
  plan.Struck step (fun _ => false) e xs ∨ plan.AllExcused xs ∧ own e ∧ e.isDriver = false

/-- A call of such a part. -/
theorem recounts_plain {ok : c.Reply → List Exchange → Prop} (hxs : plan.AllExcused xs)
    (hguard : plan.guard? xs.length c = some step) (hstep : step ≠ .principal)
    (hkind : c.kind ≠ .createCollection)
    (answered : ∀ reply, N ⟨c, .ok reply⟩ → plan.AllExcused (xs ++ [⟨c, .ok reply⟩]) →
      ok reply (xs ++ [⟨c, .ok reply⟩])) :
    (Program.perform c).Recounts N ok (plan.Breaks own step) xs := by
  have hne : plan.guard? xs.length c ≠ some .principal := fun h => hstep (by simpa [hguard] using h)
  have hsign : ∀ e, plan.Excused xs.length c e ↔ e.isDriver = true ∧ false = true :=
    fun e => ⟨fun h => absurd h (not_excused_of_kind hne hkind), fun h => by cases h.2⟩
  exact (recounts_call hxs hguard hsign answered).mono (fun _ _ h => h) fun _ _ h => .inl h

/-- The rule for a guard. -/
theorem recounts_guarded {p : Program α} {ok : α → List Exchange → Prop}
    (h : p.Recounts N ok (plan.Breaks own step) xs) :
    (plan.guarded step p).Recounts N ok (plan.Stops own) xs := by
  refine h.rescue fun e ys he => ?_
  have hnone : ¬ (e.isDriver = true ∧ (fun _ : Failure => false) e = true) := by simp
  rcases he with hstruck | ⟨hys, hown, hdriver⟩
  · have hstops : plan.Stops own _ ys := hstruck.stops hnone
    split <;> rename_i hdriver
    · rw [if_pos hdriver] at hstops
      exact Program.recounts_bind (Program.recounts_say (Program.recounts_fail hstops))
    · rwa [if_neg hdriver] at hstops
  · rw [hdriver]
    exact .own hys hown

/-- The rule for a guard that takes some failures for a sign that the object is there already. -/
theorem recounts_recovered {sign : Failure → Bool} {p : Program Action}
    {ok : Action → List Exchange → Prop}
    (found : ∀ ys x, plan.AllExcused (ys ++ [x]) → ok .skipped (ys ++ [x]))
    (h : p.Recounts N ok (plan.Struck step sign) xs) :
    (p.rescue fun e => if sign e then return .skipped else plan.abort step e).Recounts N ok
      (plan.Stops own) xs := by
  refine h.rescue fun e ys hstruck => ?_
  split <;> rename_i hdriver
  · split <;> rename_i hsign
    · obtain ⟨zs, c, rfl, hzs, -, hiff⟩ := hstruck
      exact Program.recounts_done (found zs _ (hzs.failed (hiff.2 ⟨hdriver, hsign⟩)))
    · have hstops : plan.Stops own _ ys := hstruck.stops fun h => hsign h.2
      rw [if_pos hdriver] at hstops
      exact Program.recounts_bind (Program.recounts_say (Program.recounts_fail hstops))
  · have hstops : plan.Stops own _ ys := hstruck.stops fun h => hdriver h.1
    rwa [if_neg hdriver] at hstops

/-! ### The steps -/

theorem recounts_createPrincipal (hskip : plan.skipPrincipal = false) :
    plan.createPrincipal.Recounts N (fun _ ys => plan.AllExcused ys ∧ ys ≠ [])
      (plan.Struck .principal Failure.saysUserExists) [] := by
  have hguard : plan.guard? 0 (.database adminDatabase) = some .principal := if_pos ⟨hskip, rfl⟩
  refine Program.recounts_bind (recounts_call allExcused_nil hguard (fun e => ?_) fun _ _ hxs => ?_)
  · rw [Excused, List.length_nil, hguard]
    exact .rfl
  · refine Program.recounts_bind (recounts_call hxs rfl (fun e => .rfl) fun _ _ hys => ?_)
    exact Program.recounts_done ⟨hys, by simp⟩

/-- After the step of the principal calls have been made, unless it is skipped. -/
theorem recounts_principalStep : plan.principalStep.Recounts N
    (fun _ ys => plan.AllExcused ys ∧ (plan.skipPrincipal = false → ys ≠ [])) (plan.Stops own) [] := by
  unfold principalStep
  split
  · rename_i hskip
    exact Program.recounts_bind (Program.recounts_say (Program.recounts_done
      ⟨allExcused_nil, fun h => by rw [hskip] at h; cases h⟩))
  · rename_i hskip
    have hcreate := recounts_createPrincipal (N := N) (by simpa using hskip)
    refine Program.recounts_bind ((recounts_recovered (fun ys x hys =>
      ⟨hys, by simp⟩) hcreate).seq fun action ys hys => ?_)
    exact Program.recounts_bind (Program.recounts_say (Program.recounts_done
      (Program.recounts_done ⟨hys.1, fun _ => hys.2⟩)))

theorem recounts_ensureCollection {existing : List String} {n : String}
    (hxs : plan.AllExcused xs) : (plan.ensureCollection existing n).Recounts N
      (fun _ ys => plan.AllExcused ys) (plan.Stops own) xs := by
  unfold ensureCollection
  split
  · exact Program.recounts_bind (Program.recounts_say (Program.recounts_done hxs))
  · have hsign : ∀ e, plan.Excused xs.length (.createCollection plan.database n) e ↔
        e.isDriver = true ∧ e.saysAlreadyExists = true :=
      fun e => ⟨fun h => h.2, fun h => ⟨rfl, h⟩⟩
    have hcreate : (plan.createCollection n).Recounts N (fun _ ys => plan.AllExcused ys)
        (plan.Struck .collections Failure.saysAlreadyExists) xs :=
      Program.recounts_bind (recounts_call hxs rfl hsign fun _ _ hys => Program.recounts_done hys)
    refine (recounts_recovered (fun _ _ h => h) hcreate).seq fun action ys hys =>
      Program.recounts_bind ?_
    cases action <;> exact Program.recounts_say (Program.recounts_done hys)

theorem recounts_ensureCollections (hxs : plan.AllExcused xs) : plan.ensureCollections.Recounts N
    (fun _ ys => plan.AllExcused ys) (plan.Stops own) xs := by
  refine Program.recounts_bind (recounts_guarded (recounts_plain hxs rfl nofun nofun
    fun existing _ hys => ?_))
  exact Program.recounts_each (fun n _ _ hzs => recounts_ensureCollection hzs) hys

theorem recounts_ensureIndex (hown : Owns N own) {n : String} {existing : Assoc IndexInfo}
    {i : IndexSpec} (hxs : plan.AllExcused xs)
    (hread : N ⟨.indexInformation plan.database n, .ok existing⟩) :
    (plan.ensureIndex n existing i).Recounts N (fun _ ys => plan.AllExcused ys)
      (plan.Stops own) xs := by
  unfold ensureIndex
  -- something was read under the name of the index, or nothing was
  cases hl : existing.lookup i.indexName with
  | some info =>
    simp only
    cases hm : i.matches? info with
    | error e => exact .own hxs (hown.direction _ _ existing hread i info e hl hm)
    | ok same =>
      refine Program.recounts_bind (Program.recounts_done ?_)
      cases same with
      | true => exact Program.recounts_bind (Program.recounts_say (Program.recounts_done hxs))
      | false =>
        exact Program.recounts_bind (Program.recounts_say
          (Program.recounts_fail (.own hxs (hown.conflict _ i info))))
  | none =>
    refine Program.recounts_bind (recounts_guarded (recounts_plain hxs rfl nofun nofun
      fun _ _ hys => ?_))
    exact Program.recounts_bind (Program.recounts_say (Program.recounts_done hys))

theorem recounts_ensureIndexes (hown : Owns N own) (hxs : plan.AllExcused xs) :
    plan.ensureIndexes.Recounts N (fun _ ys => plan.AllExcused ys) (plan.Stops own) xs := by
  refine (Program.recounts_each (fun c _ ys hys => ?_) hxs).seq fun _ _ hys =>
    Program.recounts_done hys
  unfold ensureCollectionIndexes
  split
  · exact Program.recounts_done hys
  refine (recounts_lookup (.inr rfl) hys rfl).seq fun _ zs hzs => ?_
  refine Program.recounts_bind (recounts_guarded (recounts_plain hzs rfl nofun nofun
    fun existing hread hws => ?_))
  exact Program.recounts_each (fun i _ _ hvs => recounts_ensureIndex hown hvs hread) hws

theorem recounts_writeRole (hown : Owns N own) {r : RoleSeed} {now : Instant}
    (hxs : plan.AllExcused xs) : (plan.writeRole r now).Recounts N
      (fun _ ys => plan.AllExcused ys) (plan.Breaks own .seed) xs := by
  have hinsert (present : Action) {ys : List Exchange} (hys : plan.AllExcused ys) :
      (plan.insertRole r now present).Recounts N (fun _ zs => plan.AllExcused zs)
        (plan.Breaks own .seed) ys :=
    Program.recounts_bind (recounts_plain hys rfl nofun nofun fun _ _ hzs => Program.recounts_done hzs)
  unfold writeRole
  split
  · exact hinsert _ hxs
  refine Program.recounts_bind (recounts_plain hxs rfl nofun nofun fun stored hread hys => ?_)
  cases stored with
  | none => exact hinsert _ hys
  | some stored =>
    change (plan.updateRole r now stored).Recounts N _ _ _
    unfold updateRole
    split
    · split
      · exact Program.recounts_bind (recounts_plain hys rfl nofun nofun fun _ _ hzs =>
          Program.recounts_done hzs)
      · exact .inr ⟨hys, hown.identity _ _ _ stored hread ‹_›, rfl⟩
    · exact Program.recounts_done hys

theorem recounts_seedStep (hown : Owns N own) {now : Instant} (hxs : plan.AllExcused xs) :
    (plan.seedStep now).Recounts N (fun _ ys => plan.AllExcused ys) (plan.Stops own) xs := by
  unfold seedStep
  split
  · exact Program.recounts_bind (Program.recounts_say (Program.recounts_done hxs))
  unfold seedRoles
  split
  · exact Program.recounts_done hxs
  refine (recounts_lookup (.inr rfl) hxs rfl).seq fun _ ys hys => ?_
  refine Program.recounts_each (fun r _ zs hzs => ?_) hys
  refine (recounts_guarded (recounts_writeRole hown hzs)).seq fun action ws hws => ?_
  exact Program.recounts_bind (Program.recounts_say (Program.recounts_done hws))

/-! ### The run -/

/-- A run that ends with a report has excused every failure of its calls.  Any other ends as `Stops`
says. -/
theorem recounts_provision (hown : Owns N own) (now : Instant) :
    (plan.provision now).Recounts N (fun _ ys => plan.AllExcused ys) (plan.Stops own) [] := by
  refine Program.recounts_bind (Program.recounts_say ?_)
  refine recounts_principalStep.seq fun _ xs hxs => ?_
  have hguard : plan.guard? xs.length (.database plan.database) = none := by
    refine if_neg fun h => hxs.2 h.1 ?_
    exact List.length_eq_zero_iff.1 h.2
  refine (recounts_lookup (.inl rfl) hxs.1 hguard).seq fun _ ys hys => ?_
  refine (recounts_ensureCollections hys).seq fun _ zs hzs => ?_
  refine (recounts_ensureIndexes hown hzs).seq fun _ ws hws => ?_
  refine (recounts_seedStep hown hws).seq fun _ vs hvs => ?_
  exact Program.recounts_bind (Program.recounts_say (Program.recounts_done hvs))

end Plan

end Bringup
