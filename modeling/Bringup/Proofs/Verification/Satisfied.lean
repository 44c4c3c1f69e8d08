import Bringup.Proofs.Verification.Conformity

/-!
# What a verification without problems says in any weather

* `SeedSpec.Satisfied` : a server holds what a specification declares, as far as the comparison of indexes
  accepts it;
* `Program.Sees` : whatever befalls its calls, a program leaves the server as it is, and a value that it
  ends with is as is said;
* `SeedSpec.sees_verify` : a verification that finds no problem has looked at all that is declared, and
  the server satisfies the specification.

A reader that overlooks a collection finds a problem, and a failure of a call ends the verification.  So
nothing that befalls the calls can make a problem disappear.
-/

namespace Bringup

/-- A server holds what a specification declares: the collections, for each index one that is reported under
its name and accepted, and one document for each role, with its permissions. -/
structure SeedSpec.Satisfied (spec : SeedSpec) (s : Server) : Prop where
  collections : ∀ c ∈ spec.collections, (s.collection? spec.database c.name).isSome
  indexes : ∀ c ∈ spec.collections, ∀ i ∈ c.indexes, ∃ info,
    (s.indexInformation spec.database c.name).lookup i.indexName = some info ∧
      i.matches? info = .ok true
  roles : ∀ r ∈ spec.roles, ∃ d,
    (s.documents spec.database rolesCollection).filter
      (fun d => d.lookup "code" = some (.str r.code)) = [d] ∧
        d.lookup "permissions" = some (.texts r.permissions)

/-! ### Programs that only look -/

namespace Program

variable {α β : Type} {s : Server} {ok : α → Prop}

/-- Whatever befalls its calls, the program leaves the server as it is, and a value that it ends with is as
`ok` says. -/
def Sees (ok : α → Prop) (p : Program α) (s : Server) : Prop :=
  p.Assures (.alone .any) (fun a t => t = s ∧ ok a) (fun _ t => t = s) s

theorem sees_done {a : α} (h : ok a) : (Program.done a).Sees ok s := ⟨rfl, h⟩

theorem sees_fail {e : Failure} : (Program.fail e : Program α).Sees ok s := rfl

theorem sees_say {entry : Entry} : (Program.say entry).Sees (fun _ => True) s := ⟨rfl, trivial⟩

theorem sees_bind {p : Program α} {f : α → Program β} {ok' : β → Prop} (h : p.Sees ok s)
    (next : ∀ a, ok a → (f a).Sees ok' s) : (p.bind f).Sees ok' s := by
  refine assures_bind (Assures.mono h (fun a t ht => ?_) fun _ _ h => h)
  obtain ⟨rfl, ha⟩ := ht
  exact next a ha

/-- A call that changes nothing is answered, or it is struck. -/
theorem sees_perform {c : Call} {ok : c.Reply → Prop}
    (h : ∀ v, ∃ reply, s.answer v c = (.ok reply, s) ∧ ok reply) : (perform c).Sees ok s := by
  refine assures_alone_perform (fun _ _ => rfl) fun v _ => ?_
  obtain ⟨reply, hanswer, hok⟩ := h v
  rw [hanswer]
  exact ⟨rfl, hok⟩

theorem sees_rescue {p : Program α} {handler : Failure → Program α} (h : p.Sees ok s)
    (hhandler : ∀ e, (handler e).Sees ok s) : (p.rescue handler).Sees ok s := by
  refine assures_rescue (Assures.mono h (fun _ _ h => h) fun e t ht => ?_)
  subst ht
  split
  · exact hhandler e
  · rfl

theorem sees_each {f : α → Program β} {items : List α} {link : α → β → Prop}
    (h : ∀ a ∈ items, (f a).Sees (link a) s) : (each f items).Sees (List.Forall₂ link items) s := by
  have hstep : ∀ before a after t, items = before ++ a :: after → t = s →
      (f a).Assures (.alone .any) (fun b u => u = s ∧ link a b) (fun _ u => u = s) t := by
    rintro before a after t hitems rfl
    exact h a (by rw [hitems]; simp)
  exact assures_each hstep rfl

/-- A loop that ends has dealt with every item. -/
theorem exists_mem_of_forall₂ {R : α → β → Prop} {as : List α} {bs : List β} {a : α}
    (h : List.Forall₂ R as bs) (ha : a ∈ as) : ∃ b ∈ bs, R a b := by
  induction h with
  | nil => cases ha
  | @cons a' b as bs hR _ ih =>
    rcases List.mem_cons.1 ha with rfl | ha
    · exact ⟨b, .head _, hR⟩
    · obtain ⟨b', hb', hR'⟩ := ih ha
      exact ⟨b', .tail _ hb', hR'⟩

/-- What a program sees holds of its runs under any faults, whatever the reader overlooks. -/
theorem Sees.run {p : Program α} (h : p.Sees ok s) (sight : Sight) (faults : List Fault) :
    (p.run sight s faults).server = s ∧ ∀ a, (p.run sight s faults).result = .ok a → ok a := by
  have hcourse := course_run (show Weather.any.sights sight from trivial) p s faults fun _ _ _ => trivial
  obtain ⟨hend, -⟩ := h.course hcourse rfl fun _ => rfl
  cases hr : (p.run sight s faults).result with
  | ok a =>
    rw [hr] at hend
    refine ⟨hend.1, fun b hb => ?_⟩
    obtain rfl := Except.ok.inj hb
    exact hend.2
  | error e =>
    rw [hr] at hend
    exact ⟨hend, nofun⟩

end Program

/-! ### The verification -/

namespace SeedSpec

open Program (sees_bind sees_perform sees_done sees_each sees_rescue exists_mem_of_forall₂)

variable {spec : SeedSpec} {s : Server} {existing : List String}

/-- A call that is answered with nothing. -/
theorem sees_lookUp {c : Call} (hlookup : c.IsLookup) : (Program.perform c).Sees (fun _ => True) s := by
  refine sees_perform fun v => ?_
  cases c with
  | database name => exact ⟨(), rfl, trivial⟩
  | collection database name => exact ⟨(), rfl, trivial⟩
  | _ => rcases hlookup with h | h <;> cases h

/-- A collection without problems was listed, and all its indexes are reported and accepted. -/
theorem sees_verifyCollection (c : CollectionSpec) :
    (spec.verifyCollection existing c).Sees (fun found => found.2 = [] → c.name ∈ existing ∧
      ∀ i ∈ c.indexes, ∃ info,
        (s.indexInformation spec.database c.name).lookup i.indexName = some info ∧
          i.matches? info = .ok true) s := by
  unfold verifyCollection
  split
  · rename_i hlisted
    have hindexes : (Program.perform (.indexInformation spec.database c.name)).Sees
        (fun (reported : Assoc IndexInfo) => reported = s.indexInformation spec.database c.name) s :=
      sees_perform fun v => ⟨_, rfl, rfl⟩
    have hcount : (Program.perform (.countDocuments spec.database c.name)).Sees
        (fun _ => True) s := sees_perform fun v => ⟨_, rfl, trivial⟩
    refine sees_bind (sees_lookUp (.inr rfl)) fun _ _ => ?_
    refine sees_bind hindexes fun reported hreported => sees_bind hcount fun count _ => ?_
    subst hreported
    cases hproblems : indexProblems c.name (s.indexInformation spec.database c.name) c.indexes with
    | error e => exact Program.sees_fail
    | ok problems =>
      exact sees_done fun hnone =>
        ⟨List.contains_iff_mem.1 hlisted, (indexProblems_eq_nil_iff hproblems).1 hnone⟩
  · exact sees_done nofun

theorem sees_verifyRole (r : RoleSeed) : (spec.verifyRole r).Sees (fun problems => problems = [] →
    ∃ d, (s.documents spec.database rolesCollection).filter
      (fun d => d.lookup "code" = some (.str r.code)) = [d] ∧
        d.lookup "permissions" = some (.texts r.permissions)) s := by
  have hfind : (Program.perform (.find spec.database rolesCollection (Plan.codeFilter r))).Sees
      (fun (found : List Fields) => found =
        (s.documents spec.database rolesCollection).filter r.fits) s :=
    sees_perform fun v => ⟨_, rfl, rfl⟩
  refine sees_bind hfind fun found hfound => sees_done fun hnone => ?_
  subst hfound
  rw [← fits_eq_decide]
  exact roleProblems_eq_nil_iff.1 hnone

/-- Roles without problems are stored once each, provided that their collection was listed. -/
theorem sees_verifyRoles : (spec.verifyRoles existing).Sees (fun problems => problems = [] →
    (spec.roles ≠ [] → rolesCollection ∈ existing) → ∀ r ∈ spec.roles, ∃ d,
      (s.documents spec.database rolesCollection).filter
        (fun d => d.lookup "code" = some (.str r.code)) = [d] ∧
          d.lookup "permissions" = some (.texts r.permissions)) s := by
  unfold verifyRoles
  split
  · refine sees_bind (sees_lookUp (.inr rfl)) fun _ _ => ?_
    refine sees_bind (sees_each fun r _ => sees_verifyRole r) fun found hfound => ?_
    refine sees_done fun hnone _ r hr => ?_
    obtain ⟨problems, hmem, hproblems⟩ := exists_mem_of_forall₂ hfound hr
    exact hproblems (List.flatten_eq_nil_iff.1 hnone problems hmem)
  · rename_i hlisted
    refine sees_done fun _ hdeclared r hr => ?_
    have hroles : spec.roles ≠ [] := List.ne_nil_of_mem hr
    have hmem := hdeclared hroles
    simp [hroles, hmem] at hlisted

theorem sees_inspectDatabase (hdeclared : spec.roles ≠ [] → rolesCollection ∈ spec.collectionNames) :
    spec.inspectDatabase.Sees (fun found => found.ok = true → spec.Satisfied s) s := by
  have hlist : (Program.perform (.listCollections spec.database)).Sees
      (fun (existing : List String) =>
        ∀ n ∈ existing, (s.collection? spec.database n).isSome) s := by
    refine sees_perform fun v => ⟨_, rfl, fun n hn => ?_⟩
    exact Server.mem_listed.1 (List.mem_filter.1 hn).1
  refine sees_bind hlist fun existing hexisting => ?_
  refine sees_bind (sees_each fun c _ => sees_verifyCollection c) fun found hfound => ?_
  refine sees_bind sees_verifyRoles fun problems hproblems => sees_done fun hok => ?_
  obtain ⟨hcollections, hroles⟩ := List.append_eq_nil_iff.1 (List.isEmpty_iff.1 hok)
  have hall : ∀ c ∈ spec.collections, c.name ∈ existing ∧ ∀ i ∈ c.indexes, ∃ info,
      (s.indexInformation spec.database c.name).lookup i.indexName = some info ∧
        i.matches? info = .ok true := by
    intro c hc
    obtain ⟨p, hp, hnone⟩ := exists_mem_of_forall₂ hfound hc
    exact hnone (List.flatten_eq_nil_iff.1 hcollections p.2 (List.mem_map_of_mem hp))
  refine ⟨fun c hc => hexisting c.name (hall c hc).1, fun c hc => (hall c hc).2,
    hproblems hroles fun hne => ?_⟩
  obtain ⟨c, hc, hname⟩ := List.mem_map.1 (hdeclared hne)
  exact hname ▸ (hall c hc).1

/-- A verification leaves the server as it is, and if it finds no problem, the server satisfies the
specification. -/
theorem sees_verify (hdeclared : spec.roles ≠ [] → rolesCollection ∈ spec.collectionNames) :
    spec.verify.Sees (fun found => found.ok = true → spec.Satisfied s) s := by
  have hsay (entries : List Entry) : (Program.each Program.say entries).Sees
      (List.Forall₂ (fun _ _ => True) entries) s := sees_each fun _ _ => Program.sees_say
  have habort (e : Failure) : (abortVerification e : Program Verification).Sees
      (fun found => found.ok = true → spec.Satisfied s) s :=
    sees_bind Program.sees_say fun _ _ => Program.sees_fail
  refine sees_bind (sees_lookUp (.inl rfl)) fun _ _ => ?_
  refine sees_bind (sees_rescue (sees_inspectDatabase hdeclared) habort) fun found hfound => ?_
  exact sees_bind (hsay _) fun _ _ => sees_bind (hsay _) fun _ _ => sees_done hfound

end SeedSpec

end Bringup
