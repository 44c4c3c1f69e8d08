import Bringup.Proofs.Spec.Reported
import Bringup.Proofs.Verification.Findings
import Bringup.Proofs.Verification.Surfacing

/-!
# Verification is sound, complete and read-only

* `SeedSpec.Conforms` : what a specification asks of a server: collections, reported indexes and one
  document for each role;
* `CollectionStatus.Describes` : what a verification shall tell of a declared collection;
* `SeedSpec.verify_conforms` : a verification returns, is content just when the server conforms, describes
  every declared collection in its turn, and does nothing but read.

A missing collection hides the problems of its indexes, and without the collection of the roles none are
looked for.  No violation is lost by that, as the missing collection is a problem itself: a valid
specification with roles declares their collection.
-/

namespace Bringup

/-- What a specification asks of a server. -/
structure SeedSpec.Conforms (spec : SeedSpec) (s : Server) : Prop where
  collections : ∀ c ∈ spec.collections, (s.collection? spec.database c.name).isSome
  indexes : ∀ c ∈ spec.collections, ∀ i ∈ c.indexes, ∃ info,
    (s.indexInformation spec.database c.name).lookup i.indexName = some info ∧ i.ReportedAs info
  roles : ∀ r ∈ spec.roles, ∃ d,
    (s.documents spec.database rolesCollection).filter
      (fun d => d.lookup "code" = some (.str r.code)) = [d] ∧
        d.lookup "permissions" = some (.texts r.permissions)

/-- A status tells of a declared collection whether it is there, how many documents it has, and the names
of its indexes in order, each once and without the one on the identity. -/
structure CollectionStatus.Describes (status : CollectionStatus) (s : Server) (database : String)
    (c : CollectionSpec) : Prop where
  name : status.name = c.name
  present : status.present = (s.collection? database c.name).isSome
  documents : status.documents = (s.documents database c.name).length
  ordered : status.indexNames.Pairwise (· < ·)
  indexNames : ∀ name, name ∈ status.indexNames ↔
    name ≠ identityIndex.1 ∧ (s.view database c.name name).stored.isSome

namespace SeedSpec

variable {spec : SeedSpec} {s : Server} {c : CollectionSpec}
  {problems : CollectionSpec → List String}

/-! ### Statuses -/

/-- But for the index on the identity, a collection reports what it stores. -/
theorem mem_keys_indexInformation {database n name : String} (hne : name ≠ identityIndex.1) :
    name ∈ Assoc.keys (s.indexInformation database n) ↔ (s.view database n name).stored.isSome := by
  rw [Assoc.mem_keys_iff]
  cases hc : s.collection? database n with
  | none =>
    rw [Server.view, Server.collection_of_none hc, Server.indexInformation, hc]
    rfl
  | some d =>
    rw [Server.lookup_indexInformation (by rw [hc]; rfl), Server.view]
    cases hstored : ((s.collection database n).view name).stored with
    | none => rw [Collection.reported_of_stored hstored hne]
    | some info =>
      have hreported : ((s.collection database n).view name).reported ≠ none := fun hnone => by
        rw [Collection.stored_of_reported hnone] at hstored
        cases hstored
      simp [Option.isSome_iff_ne_none, hreported]

/-- No index is reported twice. -/
theorem nodup_keys_indexInformation {database n : String} :
    (Assoc.keys (s.indexInformation database n)).Nodup := by
  unfold Server.indexInformation
  split
  · exact .nil
  · exact Assoc.nodup_keys_putAll (List.nodup_singleton _)

theorem describes_statusAt : (spec.statusAt s c).Describes s spec.database c where
  name := rfl
  present := rfl
  documents := rfl
  ordered := by
    let names := (Assoc.keys (s.indexInformation spec.database c.name)).filter (· ≠ identityIndex.1)
    have hnodup : (sortTexts names).Nodup :=
      (sortTexts_perm names).nodup_iff.2 (nodup_keys_indexInformation.filter _)
    refine (pairwise_sortTexts names).imp₂ (fun a b hle hne => ?_) hnodup
    exact String.not_le.1 fun hge => hne (String.le_antisymm hle hge)
  indexNames := fun name => by
    rw [statusAt, (sortTexts_perm _).mem_iff, List.mem_filter, decide_eq_true_iff]
    constructor
    · rintro ⟨hkey, hne⟩
      exact ⟨hne, (mem_keys_indexInformation hne).1 hkey⟩
    · rintro ⟨hne, hstored⟩
      exact ⟨(mem_keys_indexInformation hne).2 hstored, hne⟩

/-! ### Problems -/

/-- Where the stored directions are whole numbers, the declared indexes can be compared. -/
theorem exists_problemsAt
    (hwhole : ∀ name, ∀ p ∈ (s.collection spec.database name).indexes, p.2.isWhole = true)
    (c : CollectionSpec) : ∃ problems, spec.problemsAt s c = .ok problems := by
  unfold problemsAt
  split
  · exact exists_indexProblems _
      (fun _ hp => Server.isWhole_of_mem_indexInformation (hwhole c.name) hp) _
  · exact ⟨_, rfl⟩

/-- A declared index is accepted just when it is reported as it is declared. -/
theorem exists_matches_iff
    (hwhole : ∀ name, ∀ p ∈ (s.collection spec.database name).indexes, p.2.isWhole = true)
    (n : String) (i : IndexSpec) :
    (∃ info, (s.indexInformation spec.database n).lookup i.indexName = some info ∧
      i.matches? info = .ok true) ↔
    ∃ info, (s.indexInformation spec.database n).lookup i.indexName = some info ∧
      i.ReportedAs info := by
  refine exists_congr fun info => and_congr_right fun hinfo => ?_
  exact IndexSpec.matches?_eq_true_iff
    (Server.isWhole_of_mem_indexInformation (hwhole n) (Assoc.mem_of_lookup hinfo))

/-- The documents that a role fits are those with its code. -/
theorem fits_eq_decide (r : RoleSeed) :
    r.fits = fun d : Fields => decide (d.lookup "code" = some (.str r.code)) := by
  funext d
  rw [Bool.eq_iff_iff, RoleSeed.fits_iff, decide_eq_true_iff]

/-- A verification has found no problem just when the server conforms. -/
theorem found_ok_iff_conforms (hv : spec.Valid)
    (hwhole : ∀ name, ∀ p ∈ (s.collection spec.database name).indexes, p.2.isWhole = true)
    (h : ∀ c ∈ spec.collections, spec.problemsAt s c = .ok (problems c)) :
    (spec.found s problems).ok = true ↔ spec.Conforms s := by
  have hcollections : (∀ c ∈ spec.collections, problems c = []) ↔ ∀ c ∈ spec.collections,
      (s.collection? spec.database c.name).isSome ∧ ∀ i ∈ c.indexes, ∃ info,
        (s.indexInformation spec.database c.name).lookup i.indexName = some info ∧
          i.ReportedAs info := by
    refine forall₂_congr fun c hc => ?_
    rw [problemsAt_eq_nil_iff (h c hc)]
    exact and_congr_right fun _ => forall₂_congr fun i _ => exists_matches_iff hwhole c.name i
  rw [found_ok_iff, hcollections]
  -- where all declared collections are there, so is that of the roles, unless there are no roles
  have hroles (hall : ∀ c ∈ spec.collections, (s.collection? spec.database c.name).isSome) :
      spec.roleProblemsAt s = [] ↔ ∀ r ∈ spec.roles, ∃ d,
        (s.documents spec.database rolesCollection).filter
          (fun d => d.lookup "code" = some (.str r.code)) = [d] ∧
            d.lookup "permissions" = some (.texts r.permissions) := by
    simp only [← fits_eq_decide]
    by_cases hempty : spec.roles = []
    · simp [roleProblemsAt, hempty]
    · obtain ⟨c, hc, hname⟩ := List.mem_map.1 (hv.rolesDeclared hempty)
      exact roleProblemsAt_eq_nil_iff (hname ▸ hall c hc)
  constructor
  · rintro ⟨hall, hnone⟩
    have hthere := fun c hc => (hall c hc).1
    exact ⟨hthere, fun c hc => (hall c hc).2, (hroles hthere).1 hnone⟩
  · intro hconforms
    exact ⟨fun c hc => ⟨hconforms.collections c hc, hconforms.indexes c hc⟩,
      (hroles hconforms.collections).2 hconforms.roles⟩

/-- **Verification decides conformity.**  Of a valid specification, at a server whose stored directions are
whole numbers, a verification that nothing disturbs returns what it has found.  There is no problem just
when the server conforms; every declared collection is described, in the order of the declarations; all
calls only read, and the server stays as it is. -/
theorem verify_conforms (hv : spec.Valid)
    (hwhole : ∀ name, ∀ p ∈ (s.collection spec.database name).indexes, p.2.isWhole = true) :
    let run := spec.verify.run .clear s []
    ∃ found, run.result = .ok found ∧ (found.ok = true ↔ spec.Conforms s) ∧
      List.Forall₂ (fun c status => status.Describes s spec.database c) spec.collections
        found.collections ∧
      (∀ c ∈ run.calls, c.IsReading) ∧ run.server = s := by
  intro run
  choose problems hproblems using exists_problemsAt hwhole
  obtain ⟨⟨found, hresult, rfl⟩, hcalls, hserver⟩ := (reads_verify fun c _ => hproblems c).run
  refine ⟨_, hresult, found_ok_iff_conforms hv hwhole fun c _ => hproblems c, ?_, hcalls, hserver⟩
  rw [found, List.forall₂_map_right_iff, List.forall₂_same]
  exact fun _ _ => describes_statusAt

/-- The collection of users with one of its declared indexes, whose direction is stored as `1.0`. -/
def floatingUsers : Collection :=
  ⟨[("username_1", ⟨some [[.str "username", .float (.ofInt 1)]], some (.bool true), none⟩)], []⟩

theorem verify_conforms_floating :
    let s := Server.drifted.putCollection "app" "users" floatingUsers
    let spec := Plan.builtIn.spec
    let run := spec.verify.run .clear s []
    ∃ found, run.result = .ok found ∧ (found.ok = true ↔ spec.Conforms s) ∧
      List.Forall₂ (fun c status => status.Describes s spec.database c) spec.collections
        found.collections ∧
      (∀ c ∈ run.calls, c.IsReading) ∧ run.server = s :=
  verify_conforms (by decide +kernel) fun name =>
    (Server.sound_putCollection Server.sound_drifted ⟨by decide +kernel, by decide +kernel⟩
      "app" name).directions

end SeedSpec

end Bringup
