import Bringup.Proofs.Provision.Account

/-!
# Failures that say that an object is there already

* `Plan.provision_goes_on` : a run goes on after no other failure of a call, but for some failures in the
  step of the principal, which are told by their code or their text alone;
* `Plan.provision_alreadyExists_iff` : when a run ends with the class of what is there already: its last
  call fails so, and is neither the creation of a collection nor one of the principal's that is excused.

Two predicates decide.  `Failure.saysAlreadyExists` looks at the class of a failure first, as `classify`
does, and is asked where a collection is created; `Failure.saysUserExists` looks at its code and text only,
and is asked in the step of the principal.  The other steps ask neither.
-/

namespace Bringup

/-- A comparison that fails has read a direction that stands for no number, and says nothing of what is
there. -/
theorem IndexSpec.kindOf_of_matches? {index : IndexSpec} {info : IndexInfo} {e : Failure}
    (h : index.matches? info = .error e) : e.kindOf = .general := by
  obtain ⟨pair, -, he⟩ := exists_of_matches? h
  unfold reportedPair at he
  split at he
  · split at he
    · cases he
    · rename_i fault _
      obtain rfl := Except.error.inj he
      cases fault <;> rfl
  all_goals
    obtain rfl := Except.error.inj he
    rfl

namespace Plan

variable {plan : Plan} {now : Instant} {s t : Server} {xs : List Exchange}
  {r : Except Failure Report} {k : Nat} {c : Call} {d : Failure}

/-- The failures of a run that are not of the class of what is there already. -/
def Otherwise (e : Failure) : Prop := e.kindOf ≠ .alreadyExists

/-- By itself a run never ends with the class of what is there already. -/
theorem owns_otherwise {N : Exchange → Prop} : Owns N Otherwise where
  conflict := fun _ _ _ => nofun
  direction := fun _ _ _ _ _ _ _ _ he => by
    rw [Otherwise, IndexSpec.kindOf_of_matches? he]
    exact nofun
  identity := fun _ _ _ _ _ _ => nofun

/-- How a run ends when its calls fail as the driver does. -/
theorem told_provision (h : Program.Transcript .driver (plan.provision now) s xs r t) :
    Program.ToldAs (fun _ ys => plan.AllExcused ys) (plan.Stops Otherwise) r xs :=
  (recounts_provision owns_otherwise now).transcript Weather.gives_driver trivial h

/-- A run goes on after excused failures only. -/
theorem excused_of_goes_on (h : Program.Transcript .driver (plan.provision now) s xs r t)
    (hk : xs[k]? = some ⟨c, .error d⟩) (hgoes : r.isOk = true ∨ k + 1 < xs.length) :
    plan.Excused k c d := by
  have htold := told_provision h
  cases r with
  | ok report => exact htold k c d hk
  | error e =>
    have hlt : k + 1 < xs.length := hgoes.resolve_left nofun
    cases (htold : plan.Stops Otherwise e xs) with
    | own hall _ => exact hall k c d hk
    | call hall _ _ =>
      -- only the last failure was not excused
      rw [List.getElem?_append_left (by simpa using hlt)] at hk
      exact hall k c d hk

/-- Which failures of the driver are excused. -/
theorem excused_iff (hd : d.isDriver = true) : plan.Excused k c d ↔
    c.kind = .createCollection ∧ d.saysAlreadyExists = true ∨
      plan.guard? k c = some .principal ∧ d.saysUserExists = true := by
  unfold Excused
  split
  · rename_i hguard
    have hkind : c.kind ≠ .createCollection := by
      intro hkind
      cases c with
      | createCollection => cases hguard
      | _ => cases hkind
    simp [RecoversUser, hd, hguard, hkind]
  · rename_i hguard
    have hguard : plan.guard? k c ≠ some .principal := hguard
    simp [RecoversCollection, hd, hguard]

/-- What the step of the principal takes for a sign that the user is there. -/
theorem kindOf_or_of_saysUserExists (hd : d.FromDriver) (h : d.saysUserExists = true) :
    d.kindOf = .alreadyExists ∨ d.code? = some ServerCode.duplicateKey ∨ d.saysSo = true := by
  rw [Failure.saysUserExists, Bool.or_eq_true] at h
  rcases h with hcode | hso
  · rw [Failure.hasCode] at hcode
    split at hcode
    · rename_i code hc
      rcases List.mem_pair.1 (List.contains_iff_mem.1 hcode) with rfl | rfl
      · exact .inl ((Failure.kindOf_eq_alreadyExists_iff hd.isDriver).2
          (hd.saysAlreadyExists_of_code hc (by decide)))
      · exact .inr (.inl hc)
    · cases hcode
  · exact .inr (.inr hso)

/-- **Going on after a failure.**  A failure after which a run goes on is of the class of what is there
already, and struck the creation of a collection or the step of the principal; or it struck this step and
has the code of a duplicate key, or no code and a text that says that something already exists, of whatever
class it is. -/
theorem provision_goes_on (h : Program.Transcript .driver (plan.provision now) s xs r t)
    (hk : xs[k]? = some ⟨c, .error d⟩) (hgoes : r.isOk = true ∨ k + 1 < xs.length) :
    c.kind = .createCollection ∧ d.kindOf = .alreadyExists ∨
      plan.guard? k c = some .principal ∧
        (d.kindOf = .alreadyExists ∨ d.code? = some ServerCode.duplicateKey ∨ d.saysSo = true) := by
  have hd : d.FromDriver :=
    h.gives Weather.gives_driver trivial _ (List.mem_of_getElem? hk) d rfl
  rcases (excused_iff hd.isDriver).1 (excused_of_goes_on h hk hgoes) with
    ⟨hkind, hsays⟩ | ⟨hguard, hsays⟩
  · exact .inl ⟨hkind, (Failure.kindOf_eq_alreadyExists_iff hd.isDriver).2 hsays⟩
  · exact .inr ⟨hguard, kindOf_or_of_saysUserExists hd hsays⟩

/-- The connection is lost when the user is created, and what is said of it holds the words that stand for
an object that is there. -/
def lostConnection : Fault :=
  ⟨.command, none, 0, 1,
    .ofDriver .autoReconnect "connection closed: address already exists" none none none⟩

theorem transcript_lostConnection : Program.Transcript .driver (builtIn.provision .epoch) .empty
    ((builtIn.provision .epoch).exchanges .clear .empty [lostConnection])
    ((builtIn.provision .epoch).run .clear .empty [lostConnection]).result
    ((builtIn.provision .epoch).run .clear .empty [lostConnection]).server :=
  Program.transcript_fault _ _ (Failure.fromDriver_ofDriver .autoReconnect _ none none none)

theorem isOk_lostConnection :
    ((builtIn.provision .epoch).run .clear .empty [lostConnection]).result.isOk = true := by
  decide +kernel

theorem provision_goes_on_builtIn :
    ∃ c d, ((builtIn.provision .epoch).exchanges .clear .empty [lostConnection])[1]? =
        some ⟨c, .error d⟩ ∧
      (c.kind = .createCollection ∧ d.kindOf = .alreadyExists ∨
        builtIn.guard? 1 c = some .principal ∧ (d.kindOf = .alreadyExists ∨
          d.code? = some ServerCode.duplicateKey ∨ d.saysSo = true)) :=
  ⟨_, _, rfl, provision_goes_on transcript_lostConnection rfl (.inl isOk_lostConnection)⟩

/-- A run may go on after a failure of another class, as it looks at the text alone: here the user is not
created, and still it is said to be there. -/
theorem not_goes_on_of_alreadyExists :
    ¬ ∀ (plan : Plan) (s t : Server) (now : Instant) (xs : List Exchange) (report : Report) (k : Nat)
      (c : Call) (d : Failure), plan.spec.Valid →
        Program.Transcript .driver (plan.provision now) s xs (.ok report) t →
          xs[k]? = some ⟨c, .error d⟩ → d.kindOf = .alreadyExists ∨
            c.kind = .command ∧ d.code? = some ServerCode.duplicateKey := by
  intro h
  have hrun := transcript_lostConnection
  have hok := isOk_lostConnection
  cases hr : ((builtIn.provision .epoch).run .clear .empty [lostConnection]).result with
  | error e =>
    rw [hr] at hok
    cases hok
  | ok report =>
    rw [hr] at hrun
    rcases h builtIn .empty _ .epoch _ report 1 _ _ (by decide +kernel) hrun rfl with
      hkind | ⟨-, hcode⟩
    · exact absurd hkind (by decide)
    · cases hcode

/-! ### Failures that are not excused -/

/-- **The class of what is there already.**  A run ends with the class of what is there already just when
its last call failed as if its object were there, in some step, and is no creation of a collection, nor a
call of the principal whose failure says so by its code or text alone. -/
theorem provision_alreadyExists_iff
    (h : Program.Transcript .driver (plan.provision now) s xs r t) :
    (∃ message step cause, r = .error (.provision .alreadyExists message step cause)) ↔
      ∃ before c d step, xs = before ++ [⟨c, .error d⟩] ∧
        plan.guard? before.length c = some step ∧ d.saysAlreadyExists = true ∧
          c.kind ≠ .createCollection ∧ (step = .principal → d.saysUserExists = false) := by
  have htold := told_provision h
  have hdriver {before : List Exchange} {c : Call} {d : Failure}
      (hxs : xs = before ++ [⟨c, .error d⟩]) : d.isDriver = true := by
    refine (h.gives Weather.gives_driver trivial ⟨c, .error d⟩ ?_ d rfl).isDriver
    rw [hxs]
    exact List.mem_concat_self
  constructor
  · rintro ⟨message, name, cause, rfl⟩
    obtain ⟨before, c, d, hxs, hnot, -, he⟩ := Stops.last htold fun hother => hother rfl
    have hd := hdriver hxs
    cases hguard : plan.guard? before.length c with
    | none =>
      -- what is raised without a guard is a failure of the driver
      rw [raised_of_no_guard hguard] at he
      rw [← he] at hd
      cases hd
    | some step =>
      rw [raised_of_guard hguard hd] at he
      have hkind : .alreadyExists = d.kindOf := (Failure.provision.inj he).1
      have hsays := (Failure.kindOf_eq_alreadyExists_iff hd).1 hkind.symm
      rw [excused_iff hd, not_or] at hnot
      refine ⟨before, c, d, step, hxs, hguard, hsays, fun hcreate => hnot.1 ⟨hcreate, hsays⟩, ?_⟩
      rintro rfl
      exact Bool.eq_false_iff.2 fun huser => hnot.2 ⟨hguard, huser⟩
  · rintro ⟨before, c, d, step, hxs, hguard, hsays, hkind, hprincipal⟩
    have hd := hdriver hxs
    have hnot : ¬ plan.Excused before.length c d := by
      rw [excused_iff hd]
      rintro (⟨hcreate, -⟩ | ⟨hfirst, huser⟩)
      · exact hkind hcreate
      · obtain rfl := Option.some.inj (hguard.symm.trans hfirst)
        rw [hprincipal rfl] at huser
        cases huser
    cases r with
    | ok report => exact absurd (htold _ _ _ (by simp [hxs])) hnot
    | error e =>
      rw [Stops.eq_raised htold hxs hnot, raised_of_guard hguard hd,
        (Failure.kindOf_eq_alreadyExists_iff hd).2 hsays]
      exact ⟨_, _, _, rfl⟩

/-- The creation of an index is refused with the code of a namespace that is there. -/
def refusedIndex : Fault :=
  ⟨.createIndexes, none, 0, 1, .ofDriver .operation "ns exists" (some 48) none none⟩

theorem transcript_refusedIndex : Program.Transcript .driver (builtIn.provision .epoch) .empty
    ((builtIn.provision .epoch).exchanges .clear .empty [refusedIndex])
    ((builtIn.provision .epoch).run .clear .empty [refusedIndex]).result
    ((builtIn.provision .epoch).run .clear .empty [refusedIndex]).server :=
  Program.transcript_fault _ _ (Failure.fromDriver_ofDriver .operation _ (some 48) none none)

theorem provision_alreadyExists_builtIn : ∃ message step cause,
    ((builtIn.provision .epoch).run .clear .empty [refusedIndex]).result =
      .error (.provision .alreadyExists message step cause) :=
  (provision_alreadyExists_iff transcript_refusedIndex).2
    ⟨((builtIn.provision .epoch).exchanges .clear .empty [refusedIndex]).dropLast, _, _, .indexes,
      rfl, rfl, rfl, nofun, nofun⟩

/-- The class of what is there already escapes from a run. -/
theorem alreadyExists_escapes :
    ¬ ∀ (plan : Plan) (s t : Server) (now : Instant) (xs : List Exchange) (r : Except Failure Report),
      plan.spec.Valid → Program.Transcript .driver (plan.provision now) s xs r t →
        ∀ message step cause, r ≠ .error (.provision .alreadyExists message step cause) :=
  fun h => h builtIn .empty _ .epoch _ _ (by decide +kernel) transcript_refusedIndex _ _ _ rfl

end Plan

end Bringup
