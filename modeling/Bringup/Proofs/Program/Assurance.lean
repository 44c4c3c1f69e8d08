import Bringup.Provision
import Mathlib.Data.List.Forall2

/-!
# What a program assures under faults, stale reads and interference

* `Weather` : the failures that may strike a call, and what a reader may fail to see;
* `Program.Course` : the courses that a program can take in some weather;
* `Setting` : a weather, what others may do to the server between two calls of a program, and what a
  call of the program itself may do; in `Setting.alone` nobody else is there;
* `Program.Assures` : in such a setting every call does what it may do, and the program ends as is said
  of its value or its failure;
* `Program.Assures.course`, `Program.Assures.course_alone` : what a program assures holds of its courses;
* `Program.course_run` : a run under faults is one of them.

The rules `assures_bind`, `assures_rescue`, `assures_perform` and `assures_each` follow the ways in which
programs are put together; a proof about a program goes by them and not by its courses.
-/

namespace Bringup

/-- What may befall the calls of a program. -/
structure Weather where
  /-- The failures that may strike a call; a call that is struck has no effect. -/
  strikes : Call → Failure → Prop
  /-- What a reader may fail to see. -/
  sights : Sight → Prop

namespace Weather

/-- Nothing fails by itself and every reader sees everything. -/
def calm : Weather := ⟨fun _ _ => False, (· = .clear)⟩

/-- Every call may fail in any way, and no reader is sure to see anything. -/
def any : Weather := ⟨fun _ _ => True, fun _ => True⟩

/-- No call is struck and nobody overlooks anything. -/
def IsCalm (W : Weather) : Prop := (∀ c e, ¬ W.strikes c e) ∧ ∀ v, W.sights v → v = .clear

theorem isCalm_calm : calm.IsCalm := ⟨fun _ _ h => h, fun _ h => h⟩

end Weather

/-- A weather, what others may do to the server before a call, and what a call of the program itself may
do. -/
structure Setting extends Weather where
  others : Server → Server → Prop
  own : Call → Server → Server → Prop

/-- The setting of a program at a server where nobody else is; its calls may do anything. -/
def Setting.alone (W : Weather) : Setting := ⟨W, fun s t => t = s, fun _ _ _ => True⟩

namespace Program

variable {α β : Type}

/-- The courses that a program can take: the calls that it makes on its way, how it ends, and the server
after it.  Each call meets a weather of its own. -/
inductive Course (W : Weather) : Program α → Server → List Call → Except Failure α → Server → Prop
  | done {a : α} {s : Server} : Course W (.done a) s [] (.ok a) s
  | fail {e : Failure} {s : Server} : Course W (.fail e) s [] (.error e) s
  | remark {m : Remark} {p : Program α} {s t : Server} {calls : List Call} {r : Except Failure α} :
    Course W p s calls r t → Course W (.remark m p) s calls r t
  | struck {c : Call} {k : Except Failure c.Reply → Program α} {s t : Server} {calls : List Call}
      {r : Except Failure α} (e : Failure) :
    W.strikes c e → Course W (k (.error e)) s calls r t → Course W (.call c k) s (c :: calls) r t
  | answered {c : Call} {k : Except Failure c.Reply → Program α} {s t : Server} {calls : List Call}
      {r : Except Failure α} (v : Sight) :
    W.sights v → Course W (k (s.answer v c).1) (s.answer v c).2 calls r t →
      Course W (.call c k) s (c :: calls) r t

/-- However the server is changed by others between the calls, every call of the program does what the
setting allows, and the program ends as `ok` says of its value or as `bad` says of its failure. -/
def Assures (C : Setting) (ok : α → Server → Prop) (bad : Failure → Server → Prop) :
    Program α → Server → Prop
  | .done a, s => ok a s
  | .fail e, s => bad e s
  | .remark _ p, s => p.Assures C ok bad s
  -- the others come first; then the call is struck and has no effect, or it is answered
  | .call c k, s => ∀ s', C.others s s' →
      (∀ e, C.strikes c e → C.own c s' s' ∧ (k (.error e)).Assures C ok bad s') ∧
      ∀ v, C.sights v → C.own c s' (s'.answer v c).2 ∧
        (k (s'.answer v c).1).Assures C ok bad (s'.answer v c).2

variable {C : Setting} {ok ok' : α → Server → Prop} {bad bad' : Failure → Server → Prop}

/-! ### Rules -/

theorem assures_done {a : α} {s : Server} (h : ok a s) : (Program.done a).Assures C ok bad s := h

theorem assures_fail {e : Failure} {s : Server} (h : bad e s) :
    (Program.fail e : Program α).Assures C ok bad s := h

theorem Assures.mono {p : Program α} {s : Server} (h : p.Assures C ok bad s)
    (hok : ∀ a t, ok a t → ok' a t) (hbad : ∀ e t, bad e t → bad' e t) :
    p.Assures C ok' bad' s := by
  induction p generalizing s with
  | done a => exact hok a s h
  | fail e => exact hbad e s h
  | remark m p ih => exact ih h
  | call c k ih =>
    intro s' hs'
    obtain ⟨struck, answered⟩ := h s' hs'
    exact ⟨fun e he => ⟨(struck e he).1, ih _ (struck e he).2⟩,
      fun v hv => ⟨(answered v hv).1, ih _ (answered v hv).2⟩⟩

theorem assures_bind {p : Program α} {f : α → Program β} {ok : β → Server → Prop} {s : Server}
    (h : p.Assures C (fun a t => (f a).Assures C ok bad t) bad s) :
    (p.bind f).Assures C ok bad s := by
  induction p generalizing s with
  | done a => exact h
  | fail e => exact h
  | remark m p ih => exact ih h
  | call c k ih =>
    intro s' hs'
    obtain ⟨struck, answered⟩ := h s' hs'
    exact ⟨fun e he => ⟨(struck e he).1, ih _ (struck e he).2⟩,
      fun v hv => ⟨(answered v hv).1, ih _ (answered v hv).2⟩⟩

theorem assures_attempt {p : Program α} {ok : Except Failure α → Server → Prop} {s : Server}
    (h : p.Assures C (fun a t => ok (.ok a) t) (fun e t => ok (.error e) t) s) :
    p.attempt.Assures C ok bad s := by
  induction p generalizing s with
  | done a => exact h
  | fail e => exact h
  | remark m p ih => exact ih h
  | call c k ih =>
    intro s' hs'
    obtain ⟨struck, answered⟩ := h s' hs'
    exact ⟨fun e he => ⟨(struck e he).1, ih _ (struck e he).2⟩,
      fun v hv => ⟨(answered v hv).1, ih _ (answered v hv).2⟩⟩

theorem assures_rescue {p : Program α} {handler : Failure → Program α} {s : Server}
    (h : p.Assures C ok (fun e t => if e.isDriver then (handler e).Assures C ok bad t else bad e t)
      s) : (p.rescue handler).Assures C ok bad s := by
  refine assures_bind (assures_attempt (h.mono (fun _ _ h => h) fun e t he => ?_))
  change Assures C ok bad (if e.isDriver then handler e else .fail e) t
  split <;> rename_i hd
  · simpa [hd] using he
  · exact assures_fail (by simpa [hd] using he)

theorem assures_say {entry : Entry} {ok : Unit → Server → Prop} {s : Server} (h : ok () s) :
    (Program.say entry).Assures C ok bad s := h

theorem assures_perform {c : Call} {ok : c.Reply → Server → Prop} {s : Server}
    (struck : ∀ s', C.others s s' → ∀ e, C.strikes c e → C.own c s' s' ∧ bad e s')
    (answered : ∀ s', C.others s s' → ∀ v, C.sights v → C.own c s' (s'.answer v c).2 ∧
      match (s'.answer v c).1 with
      | .ok r => ok r (s'.answer v c).2
      | .error e => bad e (s'.answer v c).2) :
    (Program.perform c).Assures C ok bad s := by
  intro s' hs'
  refine ⟨struck s' hs', fun v hv => ?_⟩
  obtain ⟨hown, hend⟩ := answered s' hs' v hv
  refine ⟨hown, ?_⟩
  cases hr : (s'.answer v c).1 with
  | ok r => rw [hr] at hend; exact hend
  | error e => rw [hr] at hend; exact hend

/-- The rule for a call of a program that is alone. -/
theorem assures_alone_perform {W : Weather} {c : Call} {ok : c.Reply → Server → Prop}
    {bad : Failure → Server → Prop} {s : Server} (struck : ∀ e, W.strikes c e → bad e s)
    (answered : ∀ v, W.sights v → match (s.answer v c).1 with
      | .ok r => ok r (s.answer v c).2
      | .error e => bad e (s.answer v c).2) : (perform c).Assures (.alone W) ok bad s := by
  refine assures_perform (fun t ht e he => ?_) fun t ht v hv => ?_
  · obtain rfl : t = s := ht
    exact ⟨trivial, struck e he⟩
  · obtain rfl : t = s := ht
    exact ⟨trivial, answered v hv⟩

/-- Nothing is said of how a program ends that is alone. -/
theorem assures_anything {W : Weather} (p : Program α) (s : Server) :
    p.Assures (.alone W) (fun _ _ => True) (fun _ _ => True) s := by
  induction p generalizing s with
  | done a => trivial
  | fail e => trivial
  | remark m p ih => exact ih s
  | call c k ih =>
    exact fun s' _ => ⟨fun e _ => ⟨trivial, ih _ s'⟩, fun v _ => ⟨trivial, ih _ _⟩⟩

section
variable {γ : Type} {items before after : List α} {a : α}

/-- Where no item comes twice, the one that a loop has come to is none of those that were dealt with. -/
theorem new_of_nodup (h : items.Nodup) (hitems : items = before ++ a :: after) : a ∉ before := by
  rw [hitems] at h
  exact fun hmem => (List.nodup_append.1 h).2.2 _ hmem _ List.mem_cons_self rfl

theorem new_of_nodup_map {key : α → γ} (h : (items.map key).Nodup) (hitems : items = before ++ a :: after) :
    key a ∉ before.map key :=
  new_of_nodup h (by rw [hitems, List.map_append, List.map_cons])

end

/-- The rule for a loop: `inv` holds of the items that were dealt with and of their results. -/
theorem assures_each_with {f : α → Program β} {items : List α}
    {inv : List α → List β → Server → Prop} {s : Server}
    (step : ∀ before a after bs t, items = before ++ a :: after → inv before bs t →
      (f a).Assures C (fun b t' => inv (before ++ [a]) (bs ++ [b]) t') bad t)
    (start : inv [] [] s) : (each f items).Assures C (fun bs t => inv items bs t) bad s := by
  -- the loop goes on after any items, so that the invariant can speak of all that were dealt with
  suffices h : ∀ before rest bs t, items = before ++ rest → inv before bs t →
      (each f rest).Assures C (fun cs t' => inv items (bs ++ cs) t') bad t from
    h [] items [] s rfl start
  intro before rest
  induction rest generalizing before with
  | nil =>
    intro bs t hitems hinv
    rw [List.append_nil] at hitems
    exact assures_done (by rwa [List.append_nil, hitems])
  | cons a rest ih =>
    intro bs t hitems hinv
    refine assures_bind ((step before a rest bs t hitems hinv).mono (fun b t' hb => ?_)
      fun _ _ h => h)
    have hrest := ih (before ++ [a]) (bs ++ [b]) t' (by simpa using hitems) hb
    refine assures_bind (hrest.mono (fun cs t'' hcs => ?_) fun _ _ h => h)
    exact assures_done (by simpa using hcs)

/-- The same when the items and their results are only related one by one. -/
theorem assures_each {f : α → Program β} {items : List α} {inv : List α → Server → Prop}
    {link : α → β → Prop} {s : Server}
    (step : ∀ before a after t, items = before ++ a :: after → inv before t →
      (f a).Assures C (fun b t' => inv (before ++ [a]) t' ∧ link a b) bad t)
    (start : inv [] s) :
    (each f items).Assures C (fun bs t => inv items t ∧ List.Forall₂ link items bs) bad s := by
  let all (before : List α) (bs : List β) (t : Server) : Prop :=
    inv before t ∧ List.Forall₂ link before bs
  have hstart : all [] [] s := ⟨start, .nil⟩
  refine assures_each_with (fun before a after bs t hitems hinv => ?_) hstart
  refine (step before a after t hitems hinv.1).mono (fun b t' hb => ?_) fun _ _ h => h
  exact ⟨hb.1, List.rel_append hinv.2 (.cons hb.2 .nil)⟩

/-- What a program and the others do adds up to a path. -/
theorem Assures.path {M : Server → Server → Prop} {p : Program α} {s : Server}
    (h : p.Assures C ok bad s) (refl : ∀ t, M t t)
    (trans : ∀ {t u w}, M t u → M u w → M t w)
    (others : ∀ {t u}, C.others t u → M t u) (own : ∀ {c t u}, C.own c t u → M t u) :
    p.Assures C (fun a t => ok a t ∧ M s t) (fun e t => bad e t ∧ M s t) s := by
  -- the path starts at `s` all the while, and the program goes on from where the path has come to
  suffices key : ∀ t, M s t → p.Assures C ok bad t →
      p.Assures C (fun a t => ok a t ∧ M s t) (fun e t => bad e t ∧ M s t) t from
    key s (refl s) h
  clear h
  induction p with
  | done a => exact fun t hst h => ⟨h, hst⟩
  | fail e => exact fun t hst h => ⟨h, hst⟩
  | remark m p ih => exact ih
  | call c k ih =>
    intro t hst h t' ht'
    obtain ⟨struck, answered⟩ := h t' ht'
    have hst' := trans hst (others ht')
    exact ⟨fun e he => ⟨(struck e he).1, ih _ t' hst' (struck e he).2⟩,
      fun v hv => ⟨(answered v hv).1, ih _ _ (trans hst' (own (answered v hv).1)) (answered v hv).2⟩⟩

/-! ### Courses and runs -/

/-- How a program ended and the server after it are as `ok` or `bad` says. -/
def EndsAs (ok : α → Server → Prop) (bad : Failure → Server → Prop) :
    Except Failure α → Server → Prop
  | .ok a, s => ok a s
  | .error e, s => bad e s

/-- What never ends with a failure ends with a value. -/
theorem EndsAs.exists_ok {r : Except Failure α} {s : Server}
    (h : EndsAs ok (fun _ _ => False) r s) : ∃ a, r = .ok a ∧ ok a s := by
  cases r with
  | ok a => exact ⟨a, rfl, h⟩
  | error e => exact h.elim

/-- What a program assures holds of each of its courses, when the others may also do nothing. -/
theorem Assures.course {p : Program α} {s t : Server} {calls : List Call} {r : Except Failure α}
    (h : p.Assures C ok bad s) (hc : Course C.toWeather p s calls r t) (start : C.others s s)
    (stay : ∀ {c t u}, C.own c t u → C.others u u) :
    EndsAs ok bad r t ∧ ∀ c ∈ calls, ∃ u w, C.own c u w := by
  induction hc with
  | done => exact ⟨h, fun c hc => by cases hc⟩
  | fail => exact ⟨h, fun c hc => by cases hc⟩
  | remark _ ih => exact ih h start
  | @struck c k s t calls r e he _ ih =>
    obtain ⟨hown, hk⟩ := (h s start).1 e he
    obtain ⟨hend, hcalls⟩ := ih hk start
    refine ⟨hend, fun d hd => ?_⟩
    rcases List.mem_cons.1 hd with rfl | hd
    · exact ⟨_, _, hown⟩
    · exact hcalls d hd
  | @answered c k s t calls r v hv _ ih =>
    obtain ⟨hown, hk⟩ := (h s start).2 v hv
    obtain ⟨hend, hcalls⟩ := ih hk (stay hown)
    refine ⟨hend, fun d hd => ?_⟩
    rcases List.mem_cons.1 hd with rfl | hd
    · exact ⟨_, _, hown⟩
    · exact hcalls d hd

/-- What a program assures that is alone holds of its courses. -/
theorem Assures.course_alone {W : Weather} {p : Program α} {ok : α → Server → Prop}
    {bad : Failure → Server → Prop} {s t : Server} {calls : List Call} {a : α}
    (h : p.Assures (.alone W) ok bad s) (hc : Course W p s calls (.ok a) t) : ok a t :=
  (h.course hc rfl fun _ => rfl).1

/-- The faults that are left after a call have no new failures. -/
theorem failure_mem_of_strike {c : Call} {faults : List Fault} {f : Fault}
    (h : f ∈ (Fault.strike c faults).2) : ∃ g ∈ faults, g.failure = f.failure := by
  induction faults generalizing f with
  | nil => simp [Fault.strike] at h
  | cons g rest ih =>
    have tail : f ∈ (Fault.strike c rest).2 → ∃ g' ∈ g :: rest, g'.failure = f.failure := by
      intro hf
      obtain ⟨g', hg', he⟩ := ih hf
      exact ⟨g', List.mem_cons_of_mem _ hg', he⟩
    rw [Fault.strike] at h
    split at h
    -- it lets the call pass, it strikes, or it has done so often enough
    · split at h <;> simp only [List.mem_cons] at h
      · rcases h with rfl | h
        · exact ⟨g, List.mem_cons_self, rfl⟩
        · exact tail h
      · rcases h with rfl | h
        · exact ⟨g, List.mem_cons_self, rfl⟩
        · exact ⟨f, List.mem_cons_of_mem _ h, rfl⟩
      · rcases h with rfl | h
        · exact ⟨_, List.mem_cons_self, rfl⟩
        · exact tail h
    · rcases List.mem_cons.1 h with rfl | h
      · exact ⟨_, List.mem_cons_self, rfl⟩
      · exact tail h

/-- The failure that strikes a call is that of a fault. -/
theorem failure_of_strike {c : Call} {faults : List Fault} {e : Failure}
    (h : (Fault.strike c faults).1 = some e) : ∃ f ∈ faults, f.failure = e := by
  induction faults with
  | nil => simp [Fault.strike] at h
  | cons g rest ih =>
    have tail : (Fault.strike c rest).1 = some e → ∃ f ∈ g :: rest, f.failure = e := by
      intro hf
      obtain ⟨f, hf, he⟩ := ih hf
      exact ⟨f, List.mem_cons_of_mem _ hf, he⟩
    rw [Fault.strike] at h
    split at h
    · split at h
      · exact tail h
      · exact ⟨g, List.mem_cons_self, by simpa using h⟩
      · exact tail h
    · exact tail h

/-- A run is a course in every weather that has its faults and its sight. -/
theorem course_run {W : Weather} {sight : Sight} (hv : W.sights sight) (p : Program α) (s : Server)
    (faults : List Fault) (hf : ∀ f ∈ faults, ∀ c, W.strikes c f.failure) :
    Course W p s (p.run sight s faults).calls (p.run sight s faults).result
      (p.run sight s faults).server := by
  induction p generalizing s faults with
  | done a => exact .done
  | fail e => exact .fail
  | remark m p ih => exact .remark (ih s faults hf)
  | call c k ih =>
    have left : ∀ f ∈ (Fault.strike c faults).2, ∀ d, W.strikes d f.failure := by
      intro f hmem d
      obtain ⟨g, hg, he⟩ := failure_mem_of_strike hmem
      exact he ▸ hf g hg d
    rw [Program.run]
    split <;> rename_i hs
    · obtain ⟨f, hmem, rfl⟩ := failure_of_strike (congrArg Prod.fst hs)
      exact .struck _ (hf f hmem c) (ih _ s _ (by rw [hs] at left; exact left))
    · exact .answered sight hv (ih _ _ _ (by rw [hs] at left; exact left))

/-- A run without faults by a reader that sees everything is a calm course. -/
theorem course_run_calm (p : Program α) (s : Server) :
    Course .calm p s (p.run .clear s []).calls (p.run .clear s []).result
      (p.run .clear s []).server :=
  course_run rfl p s [] fun _ hf => by cases hf

end Program

end Bringup
