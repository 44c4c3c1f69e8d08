import Bringup.Proofs.Program.Assurance
import Bringup.Proofs.Program.Runs

/-!
# Where a run without faults halts

* `Weather.faultless` : nothing fails by itself, and every reader has one sight;
* `Program.HaltsWith` : a run without faults ends with a failure, and its last calls are given;
* `HaltsWith.bind_left`, `Program.haltsWith_bind`, `Program.haltsWith_each` : a program that halts is
  the end of all that it is part of, and what comes before it needs only to come to an end.
-/

namespace Bringup

/-- Nothing fails by itself, and every reader has the given sight. -/
def Weather.faultless (sight : Sight) : Weather := ⟨fun _ _ => False, (· = sight)⟩

namespace Program

variable {α β : Type} {sight : Sight} {s t : Server} {e : Failure} {last : List Call}

/-- The rule for a call that is answered, where there are no faults. -/
theorem assures_answered {c : Call} {reply : c.Reply} {ok : c.Reply → Server → Prop}
    {bad : Failure → Server → Prop} (h : s.answer sight c = (.ok reply, t)) (hok : ok reply t) :
    (perform c).Assures (.alone (.faultless sight)) ok bad s := by
  refine assures_alone_perform (fun _ he => he.elim) fun v hv => ?_
  obtain rfl : v = sight := hv
  rw [h]
  exact hok

/-- The rule for a call that the server refuses. -/
theorem assures_refused {c : Call} {ok : c.Reply → Server → Prop} {bad : Failure → Server → Prop}
    (h : s.answer sight c = (.error e, t)) (hbad : bad e t) :
    (perform c).Assures (.alone (.faultless sight)) ok bad s := by
  refine assures_alone_perform (fun _ he => he.elim) fun v hv => ?_
  obtain rfl : v = sight := hv
  rw [h]
  exact hbad

/-- Where there are no faults, none are left. -/
theorem faults_run_nil (p : Program α) : (p.run sight s []).faults = [] := by
  induction p generalizing s with
  | done a => rfl
  | fail e => rfl
  | remark m p ih => exact ih
  | call c k ih => exact ih _

/-- After a value the second part goes on. -/
theorem run_bind_of_ok {p : Program α} {f : α → Program β} {a : α}
    (h : (p.run sight s []).result = .ok a) :
    ((p.bind f).run sight s []).result = ((f a).run sight (p.run sight s []).server []).result ∧
      ((p.bind f).run sight s []).calls =
        (p.run sight s []).calls ++ ((f a).run sight (p.run sight s []).server []).calls := by
  rw [run_bind, Run.andThen_of_ok h, faults_run_nil]
  exact ⟨rfl, List.filterMap_append⟩

/-- After a failure nothing goes on. -/
theorem run_bind_of_error {p : Program α} {f : α → Program β} (h : (p.run sight s []).result = .error e) :
    ((p.bind f).run sight s []).result = .error e ∧
      ((p.bind f).run sight s []).calls = (p.run sight s []).calls := by
  rw [run_bind, Run.andThen_of_error h]
  exact ⟨rfl, rfl⟩

/-- A run without faults is a course in faultless weather. -/
theorem course_run_faultless (p : Program α) : Course (.faultless sight) p s (p.run sight s []).calls
    (p.run sight s []).result (p.run sight s []).server :=
  course_run rfl p s [] fun _ hf => by cases hf

/-- What a program assures holds of its run without faults. -/
theorem Assures.run_faultless {p : Program α} {ok : α → Server → Prop} {bad : Failure → Server → Prop}
    (h : p.Assures (.alone (.faultless sight)) ok bad s) :
    EndsAs ok bad (p.run sight s []).result (p.run sight s []).server :=
  (h.course (course_run_faultless p) rfl fun _ => rfl).1

/-- The run without faults ends with the failure, and these are its last calls. -/
def HaltsWith (sight : Sight) (p : Program α) (s : Server) (e : Failure) (last : List Call) : Prop :=
  (p.run sight s []).result = .error e ∧ last <:+ (p.run sight s []).calls

/-- Nothing comes after a program that halts. -/
theorem HaltsWith.bind_left {p : Program α} {f : α → Program β} (h : p.HaltsWith sight s e last) :
    (p.bind f).HaltsWith sight s e last := by
  obtain ⟨hresult, hcalls⟩ := run_bind_of_error (f := f) h.1
  exact ⟨hresult, hcalls ▸ h.2⟩

/-- A program halts where its second part does, if the first part comes to an end. -/
theorem haltsWith_bind {p : Program α} {f : α → Program β} {ok : α → Server → Prop}
    (hp : p.Assures (.alone (.faultless sight)) ok (fun _ _ => False) s)
    (hf : ∀ a t, ok a t → (f a).HaltsWith sight t e last) : (p.bind f).HaltsWith sight s e last := by
  obtain ⟨a, hresult, hok⟩ := (hp.course (course_run_faultless p) rfl fun _ => rfl).1.exists_ok
  obtain ⟨hend, hlast⟩ := hf a _ hok
  obtain ⟨hsame, hcalls⟩ := run_bind_of_ok (f := f) hresult
  exact ⟨hsame.trans hend, hcalls ▸ hlast.trans (List.suffix_append _ _)⟩

theorem each_append (f : α → Program β) (before after : List α) : each f (before ++ after) =
    (each f before).bind fun bs => (each f after).bind fun cs => .done (bs ++ cs) := by
  induction before with
  | nil => exact (bind_done _).symm
  | cons a before ih =>
    change (f a).bind (fun b => (each f (before ++ after)).bind fun bs => .done (b :: bs)) = _
    rw [ih]
    change _ = ((f a).bind fun b => (each f before).bind fun bs => .done (b :: bs)).bind _
    simp only [bind_assoc, done_bind, List.cons_append]

/-- A loop halts where one of its items does, if the items before it come to an end. -/
theorem haltsWith_each {f : α → Program β} {before after : List α} {a : α} {inv : Server → Prop}
    (hbefore : (each f before).Assures (.alone (.faultless sight)) (fun _ t => inv t) (fun _ _ => False) s)
    (ha : ∀ t, inv t → (f a).HaltsWith sight t e last) :
    (each f (before ++ a :: after)).HaltsWith sight s e last := by
  rw [each_append]
  exact haltsWith_bind hbefore fun _ t ht => (ha t ht).bind_left.bind_left

end Program

end Bringup
