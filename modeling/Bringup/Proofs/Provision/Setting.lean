import Bringup.Proofs.Program.Assurance
import Bringup.Proofs.Provision.Finished

/-!
# The setting of a run

* `Undertaking.setting` : between two calls the others may do to the server whatever runs of the plan do,
  and so may the run;
* `Undertaking.Fit` : what is assumed of the plan, the first server and the weather;
* `Undertaking.Foul`, `Undertaking.Failed` : how a run ends with a failure: something has gone wrong by
  itself, or in calm weather an index is blocked.

The rules `assures_seq`, `assures_loop` and `assures_call` hand on that the server can be reached, and that
nothing has been lost since the last one; what a step of a run has seen or made is kept by this alone.
-/

namespace Bringup

/-- No declared index bears the name of the one on the identity, which every collection has. -/
def SeedSpec.SparesIdentity (spec : SeedSpec) : Prop :=
  ∀ p ∈ spec.places, p.2.indexName ≠ identityIndex.1

instance (spec : SeedSpec) : Decidable spec.SparesIdentity :=
  inferInstanceAs (Decidable (∀ p ∈ spec.places, p.2.indexName ≠ identityIndex.1))

namespace Plan

/-! ### Rules for parts of a run -/

variable {plan : Plan} {C : Setting} {bad : Server → Prop} {step : Step} {s : Server}

/-- The rule for a part of a run that ends the run when the driver fails. -/
theorem assures_guarded {α : Type} {p : Program α} {ok : α → Server → Prop}
    (h : p.Assures C ok (fun _ t => bad t) s) :
    (plan.guarded step p).Assures C ok (fun _ t => bad t) s := by
  refine Program.assures_rescue (h.mono (fun _ _ h => h) fun e t ht => ?_)
  split
  · exact Program.assures_bind (Program.assures_say (Program.assures_fail ht))
  · exact ht

/-- The rule for a part of a run that takes some failures of the driver for a sign that the object is
there already. -/
theorem assures_recovered {sign : Failure → Bool} {p : Program Action} {ok : Action → Server → Prop}
    (h : p.Assures C ok
      (fun e t => ok .skipped t ∧ (bad t ∨ e.isDriver = true ∧ sign e = true)) s) :
    (p.rescue fun e => if sign e then return .skipped else plan.abort step e).Assures C ok
      (fun _ t => bad t) s := by
  refine Program.assures_rescue (h.mono (fun _ _ h => h) fun e t ⟨hok, hend⟩ => ?_)
  rcases hend with hbad | ⟨hdriver, hsign⟩
  · split
    · split
      · exact Program.assures_done hok
      · exact Program.assures_bind (Program.assures_say (Program.assures_fail hbad))
    · exact hbad
  · rw [if_pos hdriver, if_pos hsign]
    exact Program.assures_done hok

/-- The same when nothing is said of the failures that end the run. -/
theorem assures_recovered_or_failed {sign : Failure → Bool} {p : Program Action}
    {ok : Action → Server → Prop} (h : p.Assures C ok (fun _ t => ok .skipped t) s) :
    (p.rescue fun e => if sign e then return .skipped else plan.abort step e).Assures C ok
      (fun _ _ => True) s :=
  assures_recovered (h.mono (fun _ _ h => h) fun _ _ h => ⟨h, .inl trivial⟩)

end Plan

namespace Undertaking

variable (U : Undertaking) (W : Weather)

/-- The setting of runs of a plan. -/
def setting : Setting where
  toWeather := W
  others := U.Moves
  own _ := U.Moves

/-- The specification is valid, role documents can be told apart, and in a steady undertaking the index on
the identity is left to the server, unless the weather is calm. -/
structure Fit : Prop where
  valid : U.plan.spec.Valid
  identified : Identified (U.plan.roleDocuments U.origin)
  steady : U.steady → W.IsCalm ∨ U.plan.spec.SparesIdentity

/-- The server can be reached, and something has gone wrong by itself. -/
def Foul (s : Server) : Prop := U.Reach s ∧ ¬ W.IsCalm

/-- How a run may end with a failure. -/
def Failed (e : Failure) (s : Server) : Prop :=
  U.Reach s ∧ (W.IsCalm → U.plan.Furnished s ∧ U.Halted e s)

variable {U W} {α β : Type} {s t : Server}

theorem Foul.failed (h : U.Foul W s) (e : Failure) : U.Failed W e s :=
  ⟨h.1, fun hcalm => absurd hcalm h.2⟩

/-! ### Rules for this setting -/

/-- Whatever a program does in this setting is a step of the undertaking. -/
theorem assures_keep {p : Program α} {ok : α → Server → Prop} {bad : Failure → Server → Prop}
    (h : p.Assures (U.setting W) ok bad s) :
    p.Assures (U.setting W) (fun a t => ok a t ∧ U.Moves s t) bad s :=
  (h.path (fun _ => moves_refl) Moves.trans id id).mono (fun _ _ h => h) fun _ _ h => h.1

/-- The rule for one part of a run after another. -/
theorem assures_seq {p : Program α} {f : α → Program β} {ok : α → Server → Prop}
    {ok' : β → Server → Prop} {bad bad' : Failure → Server → Prop} (h : U.Reach s)
    (hp : p.Assures (U.setting W) ok bad s) (hbad : ∀ e t, bad e t → bad' e t)
    (next : ∀ a t, U.Reach t → U.plan.Grows s t → ok a t →
      (f a).Assures (U.setting W) ok' bad' t) :
    (p.bind f).Assures (U.setting W) ok' bad' s := by
  refine Program.assures_bind ((assures_keep hp).mono (fun a t ht => ?_) hbad)
  obtain ⟨hok, hmoves⟩ := ht
  obtain ⟨hreach, hgrows⟩ := hmoves h
  exact next a t hreach hgrows hok

/-- The rule for a loop; `inv` holds of the items that were dealt with. -/
theorem assures_loop {f : α → Program β} {items : List α} {inv : List α → Server → Prop}
    {bad : Failure → Server → Prop} (h : U.Reach s) (start : inv [] s)
    (step : ∀ before a after t, items = before ++ a :: after → U.Reach t → U.plan.Grows s t →
      inv before t → (f a).Assures (U.setting W)
        (fun _ u => U.Reach u → U.plan.Grows t u → inv (before ++ [a]) u) bad t) :
    (Program.each f items).Assures (U.setting W) (fun _ t => inv items t) bad s := by
  have hstep : ∀ before a after t, items = before ++ a :: after →
      (U.Moves s t ∧ inv before t) → (f a).Assures (U.setting W)
        (fun _ u => (U.Moves s u ∧ inv (before ++ [a]) u) ∧ True) bad t := by
    intro before a after t hitems ⟨hmoves, hinv⟩
    obtain ⟨ht, hgrows⟩ := hmoves h
    refine (assures_keep (step before a after t hitems ht hgrows hinv)).mono (fun _ u hu => ?_)
      fun _ _ h => h
    obtain ⟨hnext, hmoves'⟩ := hu
    obtain ⟨hu, hgrows'⟩ := hmoves' ht
    exact ⟨⟨hmoves.trans hmoves', hnext hu hgrows'⟩, trivial⟩
  exact (Program.assures_each hstep ⟨moves_refl, start⟩).mono (fun _ t ht => ht.1.2) fun _ _ h => h

/-- The rule for a call at a server that can be reached. -/
theorem assures_call {c : Call} {ok : c.Reply → Server → Prop} {bad : Failure → Server → Prop}
    (h : U.Reach s) (struck : ∀ e t, U.Foul W t → bad e t)
    (answered : ∀ t v, U.Reach t → U.plan.Grows s t → W.sights v →
      U.Moves t (t.answer v c).2 ∧
        match (t.answer v c).1 with
        | .ok r => ok r (t.answer v c).2
        | .error e => bad e (t.answer v c).2) :
    (Program.perform c).Assures (U.setting W) ok bad s := by
  refine Program.assures_perform (fun t ht e he => ?_) fun t ht v hv => ?_
  · obtain ⟨hreach, -⟩ := ht h
    exact ⟨moves_refl, struck e t ⟨hreach, fun hcalm => hcalm.1 c e he⟩⟩
  · obtain ⟨hreach, hgrows⟩ := ht h
    exact answered t v hreach hgrows hv

end Undertaking

end Bringup
