import Bringup.Proofs.Program.Assurance

/-!
# What was asked and replied

* `Exchange` : a call and its reply;
* `Program.Transcript` : the courses that a program can take, with the replies to its calls;
* `Program.exchanges`, `Program.transcript_run` : a run under faults has such a transcript;
* `Program.Recounts` : whatever its calls are replied, a program ends as is said of its value or its
  failure and of all that was exchanged until then;
* `Program.Recounts.transcript` : what a program recounts holds of its transcripts.

The rules `Recounts.seq`, `Recounts.rescue`, `recounts_perform` and `recounts_each` follow the ways in
which programs are put together.  They know the replies only, and nothing of the server that gave them;
what kind of replies it gives is said once, by `Weather.Gives`.
-/

namespace Bringup

/-- A call and its reply. -/
structure Exchange where
  call : Call
  reply : Except Failure call.Reply

namespace Program

variable {α β : Type}

/-- The courses that a program can take, with the replies to its calls. -/
inductive Transcript (W : Weather) :
    Program α → Server → List Exchange → Except Failure α → Server → Prop
  | done {a : α} {s : Server} : Transcript W (.done a) s [] (.ok a) s
  | fail {e : Failure} {s : Server} : Transcript W (.fail e) s [] (.error e) s
  | remark {m : Remark} {p : Program α} {s t : Server} {xs : List Exchange} {r : Except Failure α} :
    Transcript W p s xs r t → Transcript W (.remark m p) s xs r t
  | struck {c : Call} {k : Except Failure c.Reply → Program α} {s t : Server} {xs : List Exchange}
      {r : Except Failure α} (e : Failure) :
    W.strikes c e → Transcript W (k (.error e)) s xs r t →
      Transcript W (.call c k) s (⟨c, .error e⟩ :: xs) r t
  | answered {c : Call} {k : Except Failure c.Reply → Program α} {s t : Server} {xs : List Exchange}
      {r : Except Failure α} (v : Sight) :
    W.sights v → Transcript W (k (s.answer v c).1) (s.answer v c).2 xs r t →
      Transcript W (.call c k) s (⟨c, (s.answer v c).1⟩ :: xs) r t

/-- A transcript is a course when the replies are left out. -/
theorem Transcript.course {W : Weather} {p : Program α} {s t : Server} {xs : List Exchange}
    {r : Except Failure α} (h : Transcript W p s xs r t) :
    Course W p s (xs.map Exchange.call) r t := by
  induction h with
  | done => exact .done
  | fail => exact .fail
  | remark _ ih => exact .remark ih
  | struck e he _ ih => exact .struck e he ih
  | answered v hv _ ih => exact .answered v hv ih

/-- What a run under faults asks, and what is replied. -/
def exchanges (sight : Sight) : Program α → Server → List Fault → List Exchange
  | .done _, _, _ => []
  | .fail _, _, _ => []
  | .remark _ p, s, faults => p.exchanges sight s faults
  | .call c k, s, faults =>
    match Fault.strike c faults with
    | (some e, left) => ⟨c, .error e⟩ :: (k (.error e)).exchanges sight s left
    | (none, left) =>
      ⟨c, (s.answer sight c).1⟩ ::
        (k (s.answer sight c).1).exchanges sight (s.answer sight c).2 left

/-- A run has a transcript in every weather that has its faults and its sight. -/
theorem transcript_run {W : Weather} {sight : Sight} (hv : W.sights sight) (p : Program α)
    (s : Server) (faults : List Fault) (hf : ∀ f ∈ faults, ∀ c, W.strikes c f.failure) :
    Transcript W p s (p.exchanges sight s faults) (p.run sight s faults).result
      (p.run sight s faults).server := by
  induction p generalizing s faults with
  | done a => exact .done
  | fail e => exact .fail
  | remark m p ih => exact .remark (ih s faults hf)
  | call c k ih =>
    -- the faults that are left only have failures of those at the beginning
    have left : ∀ f ∈ (Fault.strike c faults).2, ∀ d, W.strikes d f.failure := by
      intro f hmem d
      obtain ⟨g, hg, he⟩ := failure_mem_of_strike hmem
      exact he ▸ hf g hg d
    cases hs : Fault.strike c faults with
    | mk struck rest =>
      rw [hs] at left
      simp only [Program.run, exchanges, hs]
      cases struck with
      | some e =>
        obtain ⟨f, hmem, rfl⟩ := failure_of_strike (congrArg Prod.fst hs)
        exact .struck _ (hf f hmem c) (ih _ s rest left)
      | none => exact .answered sight hv (ih _ _ rest left)

/-! ### Rules -/

/-- Whatever replies of the kind `N` its calls get, the program ends as `ok` says of its value or as
`bad` says of its failure, and of all that was exchanged until then. -/
def Recounts (N : Exchange → Prop) (ok : α → List Exchange → Prop)
    (bad : Failure → List Exchange → Prop) : Program α → List Exchange → Prop
  | .done a, xs => ok a xs
  | .fail e, xs => bad e xs
  | .remark _ p, xs => p.Recounts N ok bad xs
  | .call c k, xs => ∀ reply, N ⟨c, reply⟩ → (k reply).Recounts N ok bad (xs ++ [⟨c, reply⟩])

variable {N : Exchange → Prop} {ok ok' : α → List Exchange → Prop}
  {bad bad' : Failure → List Exchange → Prop} {xs : List Exchange}

theorem recounts_done {a : α} (h : ok a xs) : (Program.done a).Recounts N ok bad xs := h

theorem recounts_fail {e : Failure} (h : bad e xs) :
    (Program.fail e : Program α).Recounts N ok bad xs := h

theorem recounts_say {entry : Entry} {ok : Unit → List Exchange → Prop} (h : ok () xs) :
    (Program.say entry).Recounts N ok bad xs := h

theorem Recounts.mono {p : Program α} (h : p.Recounts N ok bad xs)
    (hok : ∀ a ys, ok a ys → ok' a ys) (hbad : ∀ e ys, bad e ys → bad' e ys) :
    p.Recounts N ok' bad' xs := by
  induction p generalizing xs with
  | done a => exact hok a xs h
  | fail e => exact hbad e xs h
  | remark m p ih => exact ih h
  | call c k ih => exact fun reply hN => ih reply (h reply hN)

/-- What is recounted twice holds together. -/
theorem Recounts.and {p : Program α} (h : p.Recounts N ok bad xs) (h' : p.Recounts N ok' bad' xs) :
    p.Recounts N (fun a ys => ok a ys ∧ ok' a ys) (fun e ys => bad e ys ∧ bad' e ys) xs := by
  induction p generalizing xs with
  | done a => exact ⟨h, h'⟩
  | fail e => exact ⟨h, h'⟩
  | remark m p ih => exact ih h h'
  | call c k ih => exact fun reply hN => ih reply (h reply hN) (h' reply hN)

/-- What is told from some exchanges on does not depend on what was exchanged before them. -/
theorem Recounts.after {p : Program α} (h : p.Recounts N ok bad xs) (before : List Exchange) :
    p.Recounts N (fun a ys => ∃ zs, ys = before ++ zs ∧ ok a zs)
      (fun e ys => ∃ zs, ys = before ++ zs ∧ bad e zs) (before ++ xs) := by
  induction p generalizing xs with
  | done a => exact ⟨xs, rfl, h⟩
  | fail e => exact ⟨xs, rfl, h⟩
  | remark m p ih => exact ih h
  | call c k ih =>
    intro reply hN
    rw [List.append_assoc]
    exact ih reply (h reply hN)

/-- The exchanges until the end are of the kind of which the replies are. -/
theorem recounts_replies {p : Program α} (hxs : ∀ x ∈ xs, N x) :
    p.Recounts N (fun _ ys => ∀ y ∈ ys, N y) (fun _ ys => ∀ y ∈ ys, N y) xs := by
  induction p generalizing xs with
  | done a => exact hxs
  | fail e => exact hxs
  | remark m p ih => exact ih hxs
  | call c k ih =>
    refine fun reply hN => ih reply fun x hx => ?_
    rcases List.mem_append.1 hx with hx | hx
    · exact hxs x hx
    · exact List.mem_singleton.1 hx ▸ hN

theorem recounts_bind {p : Program α} {f : α → Program β} {ok : β → List Exchange → Prop}
    (h : p.Recounts N (fun a ys => (f a).Recounts N ok bad ys) bad xs) :
    (p.bind f).Recounts N ok bad xs := by
  induction p generalizing xs with
  | done a => exact h
  | fail e => exact h
  | remark m p ih => exact ih h
  | call c k ih => exact fun reply hN => ih reply (h reply hN)

/-- What is told of the first part is what the second one starts with. -/
theorem Recounts.seq {p : Program α} {f : α → Program β} {ok' : β → List Exchange → Prop}
    (h : p.Recounts N ok bad xs)
    (hf : ∀ a ys, ok a ys → (f a).Recounts N ok' bad ys) : (p.bind f).Recounts N ok' bad xs :=
  recounts_bind (h.mono hf fun _ _ h => h)

theorem recounts_attempt {p : Program α} {ok : Except Failure α → List Exchange → Prop}
    (h : p.Recounts N (fun a ys => ok (.ok a) ys) (fun e ys => ok (.error e) ys) xs) :
    p.attempt.Recounts N ok bad xs := by
  induction p generalizing xs with
  | done a => exact h
  | fail e => exact h
  | remark m p ih => exact ih h
  | call c k ih => exact fun reply hN => ih reply (h reply hN)

/-- The rule for a way out: it is taken for failures of the driver, and all others remain. -/
theorem Recounts.rescue {p : Program α} {handler : Failure → Program α}
    (h : p.Recounts N ok bad xs)
    (hbad : ∀ e ys, bad e ys → if e.isDriver then (handler e).Recounts N ok bad' ys else bad' e ys) :
    (p.rescue handler).Recounts N ok bad' xs := by
  refine recounts_bind (recounts_attempt (h.mono (fun _ _ h => h) fun e ys he => ?_))
  have he := hbad e ys he
  change Recounts N ok bad' (if e.isDriver then handler e else .fail e) ys
  split <;> rename_i hd
  · simpa [hd] using he
  · exact recounts_fail (by simpa [hd] using he)

theorem recounts_perform {c : Call} {ok : c.Reply → List Exchange → Prop}
    (answered : ∀ reply, N ⟨c, .ok reply⟩ → ok reply (xs ++ [⟨c, .ok reply⟩]))
    (failed : ∀ e, N ⟨c, .error e⟩ → bad e (xs ++ [⟨c, .error e⟩])) :
    (Program.perform c).Recounts N ok bad xs := by
  intro reply hN
  cases reply with
  | ok r => exact answered r hN
  | error e => exact failed e hN

/-- The rule for a loop: `inv` holds after every item. -/
theorem recounts_each {f : α → Program β} {items : List α} {inv : List Exchange → Prop}
    (step : ∀ a ∈ items, ∀ ys, inv ys → (f a).Recounts N (fun _ zs => inv zs) bad ys)
    (start : inv xs) : (each f items).Recounts N (fun _ ys => inv ys) bad xs := by
  induction items generalizing xs with
  | nil => exact start
  | cons a items ih =>
    refine (step a List.mem_cons_self xs start).seq fun b ys hys => ?_
    have hrest := ih (fun b hb => step b (List.mem_cons_of_mem _ hb)) hys
    exact hrest.seq fun _ _ hzs => recounts_done hzs

end Program

/-! ### Where the replies come from -/

/-- At servers that are as `inv` says, and in this weather, every reply is of the kind `N`. -/
structure Weather.Gives (W : Weather) (inv : Server → Prop) (N : Exchange → Prop) : Prop where
  struck : ∀ c e, W.strikes c e → N ⟨c, .error e⟩
  answered : ∀ s v c, inv s → W.sights v → N ⟨c, (s.answer v c).1⟩ ∧ inv (s.answer v c).2

namespace Program

variable {α : Type} {N : Exchange → Prop} {ok : α → List Exchange → Prop}
  {bad : Failure → List Exchange → Prop} {W : Weather} {inv : Server → Prop}

/-- All exchanges of a transcript are of the kind that the weather gives. -/
theorem Transcript.gives {p : Program α} {s t : Server} {xs : List Exchange} {r : Except Failure α}
    (h : Transcript W p s xs r t) (hW : W.Gives inv N) (hs : inv s) : ∀ x ∈ xs, N x := by
  induction h with
  | done => exact nofun
  | fail => exact nofun
  | remark _ ih => exact ih hs
  | struck e he _ ih => exact List.forall_mem_cons.2 ⟨hW.struck _ e he, ih hs⟩
  | @answered c k s t xs r v hv _ ih =>
    obtain ⟨hreply, hserver⟩ := hW.answered s v c hs hv
    exact List.forall_mem_cons.2 ⟨hreply, ih hserver⟩

/-- How a program ended, and what was exchanged, are as `ok` or `bad` says. -/
def ToldAs (ok : α → List Exchange → Prop) (bad : Failure → List Exchange → Prop) :
    Except Failure α → List Exchange → Prop
  | .ok a, xs => ok a xs
  | .error e, xs => bad e xs

/-- What a program recounts holds of its transcripts. -/
theorem Recounts.transcript {p : Program α} {s t : Server} {xs ys : List Exchange}
    {r : Except Failure α} (h : p.Recounts N ok bad xs) (hW : W.Gives inv N) (hs : inv s)
    (ht : Transcript W p s ys r t) : ToldAs ok bad r (xs ++ ys) := by
  induction ht generalizing xs with
  | done => rwa [List.append_nil]
  | fail => rwa [List.append_nil]
  | remark _ ih => exact ih h hs
  | struck e he _ ih =>
    have := ih (h _ (hW.struck _ e he)) hs
    rwa [List.append_assoc] at this
  | @answered c k s t ys r v hv _ ih =>
    obtain ⟨hreply, hserver⟩ := hW.answered s v c hs hv
    have := ih (h _ hreply) hserver
    rwa [List.append_assoc] at this

end Program

end Bringup
