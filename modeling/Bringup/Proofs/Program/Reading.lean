import Bringup.Proofs.Program.Assurance

/-!
# Programs that only read

* `Setting.still` : the setting of a program that nobody disturbs, and whose calls must leave the server
  as it is and be of some kind;
* `Program.Reads` : in this setting a program ends with a value as is said of it;
* `Program.Reads.run` : so does its run, with such calls only, and the server stays as it was.

A program that reads is told by the server where it starts, as this is the server of all its calls.
-/

namespace Bringup

/-- Nothing befalls the calls and nobody else is at the server; a call is as `P` says, and leaves the
server as it is. -/
def Setting.still (P : Call → Prop) : Setting where
  toWeather := .calm
  others s t := t = s
  own c s t := t = s ∧ P c

namespace Program

variable {α β : Type} {P : Call → Prop} {ok : α → Prop} {s : Server}

/-- With calls as `P` says, and without a change of the server, the program ends with a value as `ok`
says. -/
def Reads (P : Call → Prop) (ok : α → Prop) (p : Program α) (s : Server) : Prop :=
  p.Assures (.still P) (fun a t => ok a ∧ t = s) (fun _ _ => False) s

/-! ### Rules -/

theorem reads_done {a : α} (h : ok a) : (Program.done a).Reads P ok s := ⟨h, rfl⟩

theorem reads_say {entry : Entry} : (Program.say entry).Reads P (fun _ => True) s := ⟨trivial, rfl⟩

theorem reads_bind {p : Program α} {f : α → Program β} {ok' : β → Prop} (h : p.Reads P ok s)
    (next : ∀ a, ok a → (f a).Reads P ok' s) : (p.bind f).Reads P ok' s := by
  refine assures_bind (h.mono (fun a t ht => ?_) fun _ _ h => h)
  obtain ⟨ha, rfl⟩ := ht
  exact next a ha

/-- A call that leaves the server as it is. -/
theorem reads_perform {c : Call} {ok : c.Reply → Prop} (hc : P c) {reply : c.Reply}
    (hanswer : s.answer .clear c = (.ok reply, s)) (hok : ok reply) :
    (Program.perform c).Reads P ok s := by
  refine assures_perform (fun _ _ _ he => he.elim) fun t ht v hv => ?_
  obtain rfl : t = s := ht
  obtain rfl : v = .clear := hv
  rw [hanswer]
  exact ⟨⟨rfl, hc⟩, hok, rfl⟩

/-- Nothing fails, so no way out is taken. -/
theorem reads_rescue {p : Program α} {handler : Failure → Program α} (h : p.Reads P ok s) :
    (p.rescue handler).Reads P ok s :=
  assures_rescue (h.mono (fun _ _ h => h) fun _ _ h => h.elim)

/-- A loop ends with one value for each item. -/
theorem reads_each {f : α → Program β} {items : List α} {link : α → β → Prop}
    (h : ∀ a ∈ items, (f a).Reads P (link a) s) :
    (each f items).Reads P (List.Forall₂ link items) s := by
  have hstep : ∀ before a after t, items = before ++ a :: after → t = s →
      (f a).Assures (.still P) (fun b u => u = s ∧ link a b) (fun _ _ => False) t := by
    rintro before a after t hitems rfl
    exact (h a (by rw [hitems]; simp)).mono (fun _ _ hb => hb.symm) fun _ _ hb => hb
  exact (assures_each hstep rfl).mono (fun _ _ ht => ht.symm) fun _ _ hf => hf

/-- The same when the values are known. -/
theorem reads_each_map {f : α → Program β} {items : List α} {g : α → β}
    (h : ∀ a ∈ items, (f a).Reads P (· = g a) s) : (each f items).Reads P (· = items.map g) s := by
  refine (reads_each h).mono (fun bs t ht => ⟨?_, ht.2⟩) fun _ _ hf => hf
  have hsame : List.Forall₂ (· = ·) bs (items.map g) := List.forall₂_map_right_iff.2 ht.1.flip
  rwa [List.forall₂_eq_eq_eq] at hsame

/-- What is said of a program that only reads holds of its run. -/
theorem Reads.run {p : Program α} (h : p.Reads P ok s) :
    let run := p.run .clear s []
    (∃ a, run.result = .ok a ∧ ok a) ∧ (∀ c ∈ run.calls, P c) ∧ run.server = s := by
  intro run
  obtain ⟨hend, hcalls⟩ := h.course (course_run_calm p s) rfl fun _ => rfl
  obtain ⟨a, ha, hok, hserver⟩ := hend.exists_ok
  refine ⟨⟨a, ha, hok⟩, fun c hc => ?_, hserver⟩
  obtain ⟨_, _, -, hown⟩ := hcalls c hc
  exact hown

end Program

end Bringup
