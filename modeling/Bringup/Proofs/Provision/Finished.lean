import Bringup.Proofs.Provision.Alike
import Bringup.Proofs.Provision.Reach

/-!
# How an undisturbed run ends

* `Undertaking.blocks?` : the failure that a declared index meets when something else stands under its
  name; it is read off the first server;
* `Undertaking.Seen` : what a reading of the indexes of a collection tells, whenever it was made;
* `Undertaking.Finished` : where a run can end when nothing fails by itself: everything is there, or a
  declared index is blocked and all that come before it are there;
* `Undertaking.Finished.agree`, `Undertaking.Finished.alike` : all such ends are the same, and their
  servers agree.
-/

namespace Bringup

namespace Undertaking

variable (U : Undertaking)

/-- The failure that a declared index meets when something else stands under its name. -/
def blocks? (p : String × IndexSpec) : Option Failure :=
  match (U.plan.view U.origin p.1 p.2.indexName).reported with
  | none => none
  | some info =>
    match p.2.matches? info with
    | .ok true => none
    | .ok false => some (Plan.indexConflict s!"{p.1}.{p.2.indexName}" p.2 info)
    | .error e => some e

/-- What a reading of the indexes of a collection tells of a declared one: it may be made, it is there, or
it is blocked. -/
def Seen (s : Server) (n : String) (existing : Assoc IndexInfo) (i : IndexSpec) : Prop :=
  match existing.lookup i.indexName with
  | none => (U.plan.view U.origin n i.indexName).stored = none ∧
      (U.steady → (U.plan.view U.origin n i.indexName).reported = none)
  | some info =>
    match i.matches? info with
    | .ok true => U.plan.Indexed s (n, i)
    | .ok false => U.blocks? (n, i) = some (Plan.indexConflict s!"{n}.{i.indexName}" i info)
    | .error e => U.blocks? (n, i) = some e

/-- A declared index is blocked by what was there at first, and all before it are there. -/
def Halted (e : Failure) (s : Server) : Prop := ∃ p, U.plan.Due s p ∧ U.blocks? p = some e

/-- Where an undisturbed run ends. -/
def Finished (r : Except Failure Report) (s : Server) : Prop :=
  match r with
  | .ok _ => U.plan.Complete s
  | .error e => U.plan.Furnished s ∧ U.Halted e s

variable {U} {s t : Server} {p : String × IndexSpec} {n : String} {i : IndexSpec} {e e' : Failure}
  {existing : Assoc IndexInfo} {r r' : Except Failure Report}

/-! ### What is kept as servers grow -/

theorem Seen.mono (h : U.Seen s n existing i) (hg : U.plan.Grows s t)
    (hi : (n, i) ∈ U.plan.spec.places) : U.Seen t n existing i := by
  unfold Seen at h ⊢
  split at h
  · exact h
  · split at h
    · exact hg.indexes _ hi h
    · exact h
    · exact h

theorem Halted.mono (h : U.Halted e s) (hg : U.plan.Grows s t) : U.Halted e t := by
  obtain ⟨p, hp, he⟩ := h
  exact ⟨p, hp.mono hg, he⟩

theorem Finished.mono (h : U.Finished r s) (hg : U.plan.Grows s t) : U.Finished r t := by
  cases r with
  | ok report => exact Plan.Complete.mono h hg
  | error e => exact ⟨h.1.mono hg, h.2.mono hg⟩

theorem Finished.furnished (h : U.Finished r s) : U.plan.Furnished s := by
  cases r with
  | ok report => exact Plan.Complete.toFurnished h
  | error e => exact h.1

/-! ### Blocked indexes -/

/-- An index that may be made is not blocked. -/
theorem New.blocks?_eq_none (h : U.New s n i) (hsteady : U.steady) : U.blocks? (n, i) = none := by
  rw [blocks?, h.reported hsteady]

/-- An index that is there is not blocked. -/
theorem Reach.blocks?_eq_none (h : U.Reach s) (hv : U.plan.spec.Valid) (hsteady : U.steady)
    (hp : p ∈ U.plan.spec.places) (hi : U.plan.Indexed s p) : U.blocks? p = none := by
  obtain ⟨n, i⟩ := p
  rcases h.view_place hv hp with heq | ⟨hnew, -⟩
  · obtain ⟨-, info, hinfo, hmatch⟩ := hi
    rw [heq] at hinfo
    simp only [blocks?, hinfo, hmatch]
  · exact hnew.blocks?_eq_none hsteady

/-- Whenever the indexes of a collection are read, the reading tells what to do.  In a steady undertaking
the collection must be there, or else the index on the identity is not seen. -/
theorem Reach.seen (h : U.Reach s) (hv : U.plan.spec.Valid) (hi : (n, i) ∈ U.plan.spec.places)
    (hsteady : U.steady → U.plan.Holds s n ∨ i.indexName ≠ identityIndex.1) :
    U.Seen s n (s.indexInformation U.plan.database n) i := by
  unfold Seen
  by_cases hc : U.plan.Holds s n
  · rw [Server.lookup_indexInformation hc]
    change match (U.plan.view s n i.indexName).reported with | none => _ | some info => _
    -- what was there at first tells what to do; what was made since is as it is declared
    rcases h.view_place hv hi with heq | ⟨-, heq⟩
    · rw [heq]
      cases hr : (U.plan.view U.origin n i.indexName).reported with
      | none => exact ⟨Collection.stored_of_reported hr, fun _ => rfl⟩
      | some info =>
        cases hm : i.matches? info with
        | error e => simp only [blocks?, hr, hm]
        | ok same =>
          cases same with
          | true =>
            simp only [hm]
            exact ⟨hc, info, by rw [heq, hr], hm⟩
          | false => simp only [blocks?, hr, hm]
    · simp only [heq, IndexSpec.matches?_info]
      exact ⟨hc, i.info, by rw [heq], IndexSpec.matches?_info⟩
  -- a collection that is not there reports nothing, not even the index on the identity
  · have hnone : s.collection? U.plan.database n = none := by simpa [Plan.Holds] using hc
    have horigin : U.origin.collection? U.plan.database n = none := by
      cases ho : U.origin.collection? U.plan.database n with
      | none => rfl
      | some c => exact absurd (h.collections n (by rw [Plan.Holds, ho]; rfl)) hc
    have hstored : (U.plan.view U.origin n i.indexName).stored = none := by
      rw [Plan.view, Server.view, Server.collection_of_none horigin]
      rfl
    rw [Server.indexInformation, hnone]
    refine ⟨hstored, fun hs => ?_⟩
    rcases hsteady hs with hholds | hne
    · exact absurd hholds hc
    · exact Collection.reported_of_stored hstored hne

/-! ### All ends are the same -/

/-- Of two declared indexes with all before them there, one is before the other. -/
theorem Due.compare {q : String × IndexSpec} (hp : U.plan.Due s p) (hq : U.plan.Due t q) :
    p = q ∨ U.plan.Indexed t p ∨ U.plan.Indexed s q := by
  obtain ⟨before, after, heq, hbefore⟩ := hp
  obtain ⟨before', after', heq', hbefore'⟩ := hq
  -- both cut the declared indexes in two, and one of the cuts comes first unless they are the same
  rcases List.append_eq_append_iff.1 (heq.symm.trans heq') with ⟨a, ha, hb⟩ | ⟨a, ha, hb⟩
  · cases a with
    | nil => exact .inl (List.cons.inj hb).1
    | cons x a =>
      obtain ⟨rfl, -⟩ := List.cons.inj hb
      exact .inr (.inl (hbefore' p (by rw [ha]; simp)))
  · cases a with
    | nil => exact .inl (List.cons.inj hb).1.symm
    | cons x a =>
      obtain ⟨rfl, -⟩ := List.cons.inj hb
      exact .inr (.inr (hbefore q (by rw [ha]; simp)))

/-- Where a run ends, every index that is due somewhere and not blocked is there. -/
theorem Finished.indexed (h : U.Finished r t) (hv : U.plan.spec.Valid) (hsteady : U.steady)
    (hs : U.Reach s) (hp : U.plan.Due s p) (hfree : U.blocks? p = none) : U.plan.Indexed t p := by
  cases r with
  | ok report => exact Plan.Complete.indexes h p hp.mem
  | error e =>
    obtain ⟨-, q, hq, hblocked⟩ := h
    rcases Due.compare hp hq with rfl | hi | hi
    · rw [hfree] at hblocked
      cases hblocked
    · exact hi
    · rw [hs.blocks?_eq_none hv hsteady hq.mem hi] at hblocked
      cases hblocked

/-- When an index is blocked somewhere, there is no server where all indexes are there. -/
theorem Halted.not_indexed (h : U.Halted e t) (hv : U.plan.spec.Valid) (hsteady : U.steady)
    (hs : U.Reach s) : ¬ ∀ p ∈ U.plan.spec.places, U.plan.Indexed s p := by
  intro hall
  obtain ⟨p, hp, hblocked⟩ := h
  rw [hs.blocks?_eq_none hv hsteady hp.mem (hall p hp.mem)] at hblocked
  cases hblocked

/-- Two runs that meet a blocked index meet the same one. -/
theorem Halted.unique (h : U.Halted e s) (h' : U.Halted e' t) (hv : U.plan.spec.Valid)
    (hsteady : U.steady) (hs : U.Reach s) (ht : U.Reach t) : e = e' := by
  obtain ⟨p, hp, he⟩ := h
  obtain ⟨q, hq, he'⟩ := h'
  rcases Due.compare hp hq with rfl | hi | hi
  · exact Option.some.inj (he.symm.trans he')
  · rw [ht.blocks?_eq_none hv hsteady hp.mem hi] at he
    cases he
  · rw [hs.blocks?_eq_none hv hsteady hq.mem hi] at he'
    cases he'

/-- All undisturbed runs end in the same way. -/
theorem Finished.agree (h : U.Finished r s) (h' : U.Finished r' t) (hv : U.plan.spec.Valid)
    (hsteady : U.steady) (hs : U.Reach s) (ht : U.Reach t) (e : Failure) :
    r = .error e ↔ r' = .error e := by
  cases r with
  | ok report =>
    cases r' with
    | ok report' => simp
    | error e' => exact absurd (Plan.Complete.indexes h) (h'.2.not_indexed hv hsteady hs)
  | error e₁ =>
    cases r' with
    | ok report' => exact absurd (Plan.Complete.indexes h') (h.2.not_indexed hv hsteady ht)
    | error e₂ => rw [h.2.unique h'.2 hv hsteady hs ht]

/-! ### The servers agree -/

/-- The users after a run that got past the first step. -/
theorem Reach.users_eq (h : U.Reach s) (hf : U.plan.Furnished s) : s.users =
    if U.plan.skipPrincipal = true ∨ U.plan.spec.principal.name ∈ U.origin.users then U.origin.users
    else U.origin.users ++ [U.plan.spec.principal.name] := by
  rcases h.users with heq | ⟨hskip, hnew, heq⟩
  · rw [heq, if_pos]
    cases hskip : U.plan.skipPrincipal with
    | true => exact .inl rfl
    | false => exact .inr (heq ▸ hf.user hskip)
  · rw [heq, if_neg (by simp [hskip, hnew])]

/-- An index that may be made somewhere has been made where a run ends. -/
theorem Finished.view_of_new (h : U.Finished r t) (hv : U.plan.spec.Valid) (hsteady : U.steady)
    (hs : U.Reach s) (ht : U.Reach t) (hnew : U.New s n i) :
    U.plan.view t n i.indexName = ⟨some i.info, some i.info⟩ := by
  obtain ⟨-, info, hinfo, -⟩ := h.indexed hv hsteady hs hnew.due (hnew.blocks?_eq_none hsteady)
  rcases ht.view_place hv hnew.due.mem with heq | ⟨-, heq⟩
  · rw [heq, hnew.reported hsteady] at hinfo
    cases hinfo
  · exact heq

/-- The same stands under the name of an index wherever a run ends. -/
theorem Finished.view_eq (h : U.Finished r s) (h' : U.Finished r' t) (hv : U.plan.spec.Valid)
    (hsteady : U.steady) (hs : U.Reach s) (ht : U.Reach t) (n name : String) :
    U.plan.view s n name = U.plan.view t n name := by
  rcases hs.indexes n name with heq | ⟨i, rfl, hnew, heq⟩
  · rcases ht.indexes n name with heq' | ⟨j, rfl, hnew, heq'⟩
    · rw [heq, heq']
    · rw [heq', h.view_of_new hv hsteady ht hs hnew]
  · rw [heq, h'.view_of_new hv hsteady hs ht hnew]

/-- A run that ends with a failure has written no role document. -/
theorem Halted.roleDocuments_eq (h : U.Halted e s) (hv : U.plan.spec.Valid) (hsteady : U.steady)
    (hs : U.Reach s) : U.plan.roleDocuments s = U.plan.roleDocuments U.origin := by
  -- documents are only written when all indexes are there
  by_contra hne
  exact h.not_indexed hv hsteady hs (hs.seeded hne)

/-- The role documents agree wherever a run ends. -/
theorem Finished.roles_alike (h : U.Finished r s) (h' : U.Finished r' t) (hv : U.plan.spec.Valid)
    (hsteady : U.steady) (hs : U.Reach s) (ht : U.Reach t) :
    List.Forall₂ (U.plan.AlikeDocument U.origin.identities) (U.plan.roleDocuments s)
      (U.plan.roleDocuments t) := by
  have agree := h.agree h' hv hsteady hs ht
  cases r with
  | ok report =>
    cases r' with
    | ok report' =>
      exact hs.roles.alike hv ht.roles (Plan.Complete.roles h) (Plan.Complete.roles h')
    | error e => exact absurd ((agree e).2 rfl) (by simp)
  | error e =>
    cases r' with
    | ok report' => exact absurd ((agree e).1 rfl) (by simp)
    | error e' =>
      rw [h.2.roleDocuments_eq hv hsteady hs, h'.2.roleDocuments_eq hv hsteady ht]
      exact List.forall₂_same.2 fun _ _ => .inl rfl

/-- The servers agree wherever a run ends. -/
theorem Finished.alike (h : U.Finished r s) (h' : U.Finished r' t) (hv : U.plan.spec.Valid)
    (hsteady : U.steady) (hs : U.Reach s) (ht : U.Reach t) :
    U.plan.Alike U.origin.identities s t := by
  refine ⟨?_, fun d hd => (hs.elsewhere d hd).trans (ht.elsewhere d hd).symm, fun m => ?_⟩
  · rw [hs.users_eq h.furnished, ht.users_eq h'.furnished]
  -- a declared collection is there wherever the run ends; the others are those of the beginning
  by_cases hm : m ∈ U.plan.spec.collectionNames
  · obtain ⟨c, hc⟩ := Option.isSome_iff_exists.1 (h.furnished.collections m hm)
    obtain ⟨d, hd⟩ := Option.isSome_iff_exists.1 (h'.furnished.collections m hm)
    rw [hc, hd]
    have hcs := Server.collection_of_some hc
    have hdt := Server.collection_of_some hd
    refine .some ⟨fun index => ?_, ?_⟩
    · have hview := h.view_eq h' hv hsteady hs ht m index
      rw [Plan.view, Plan.view, Server.view, Server.view, hcs, hdt] at hview
      exact congrArg IndexView.stored hview
    · split
      · rename_i hroles
        subst hroles
        have halike := h.roles_alike h' hv hsteady hs ht
        rw [Plan.roleDocuments, Plan.roleDocuments, Server.documents, Server.documents, hcs, hdt]
          at halike
        exact halike
      · rename_i hroles
        have hdocs := (hs.documents m hroles).trans (ht.documents m hroles).symm
        rw [Server.documents, Server.documents, hcs, hdt] at hdocs
        exact hdocs
  · rw [hs.undeclared m hm, ht.undeclared m hm]
    cases U.origin.collection? U.plan.database m with
    | none => exact .none
    | some c => exact .some .refl

end Undertaking

end Bringup
