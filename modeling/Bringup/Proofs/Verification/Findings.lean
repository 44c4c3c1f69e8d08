import Bringup.Proofs.Program.Reading
import Bringup.Proofs.Provision.Account
import Bringup.Verification

/-!
# What a verification finds

* `Call.IsReading` : the calls that a verification makes;
* `SeedSpec.statusAt`, `SeedSpec.problemsAt`, `SeedSpec.roleProblemsAt` : what is found of a server, said
  of the server itself and not of replies;
* `SeedSpec.reads_verify` : a verification that nothing disturbs makes such calls only, leaves the server
  as it is, and returns just that, unless an index cannot be compared;
* `SeedSpec.indexProblems_eq_nil_iff`, `SeedSpec.roleProblems_eq_nil_iff` : when there is no problem.
-/

namespace Bringup

/-- The call looks up an object by its name, or asks for names of collections, indexes, a count of
documents or documents. -/
def Call.IsReading (c : Call) : Prop :=
  c.IsLookup ∨ c.kind ∈ [.listCollections, .indexInformation, .countDocuments, .find]

namespace SeedSpec

variable (spec : SeedSpec) (s : Server)

/-- What is found of a declared collection. -/
def statusAt (c : CollectionSpec) : CollectionStatus where
  name := c.name
  present := (s.collection? spec.database c.name).isSome
  documents := (s.documents spec.database c.name).length
  indexNames := sortTexts
    ((Assoc.keys (s.indexInformation spec.database c.name)).filter (· ≠ identityIndex.1))

/-- The problems of a declared collection, or why an index of it cannot be compared. -/
def problemsAt (c : CollectionSpec) : Except Failure (List String) :=
  if (s.collection? spec.database c.name).isSome then
    indexProblems c.name (s.indexInformation spec.database c.name) c.indexes
  else .ok [s!"Collection '{c.name}' is missing"]

/-- The problems of the roles; without their collection there are none. -/
def roleProblemsAt : List String :=
  if (s.collection? spec.database rolesCollection).isSome then
    spec.roles.flatMap fun r =>
      roleProblems r ((s.documents spec.database rolesCollection).filter r.fits)
  else []

variable {spec s} {existing : List String} {c : CollectionSpec} {problems : List String}

/-! ### The run -/

/-- A call that asks. -/
theorem reads_ask {c : Call} {ok : c.Reply → Prop}
    (hkind : c.kind ∈ [.listCollections, .indexInformation, .countDocuments, .find])
    {reply : c.Reply} (hanswer : s.answer .clear c = (.ok reply, s)) (hok : ok reply) :
    (Program.perform c).Reads Call.IsReading ok s :=
  Program.reads_perform (.inr hkind) hanswer hok

theorem reads_lookUp {c : Call} (hlookup : c.IsLookup) {reply : c.Reply}
    (hanswer : s.answer .clear c = (.ok reply, s)) :
    (Program.perform c).Reads Call.IsReading (fun _ => True) s :=
  Program.reads_perform (.inl hlookup) hanswer trivial

theorem reads_verifyCollection
    (hexisting : ∀ n, n ∈ existing ↔ (s.collection? spec.database n).isSome)
    (h : spec.problemsAt s c = .ok problems) :
    (spec.verifyCollection existing c).Reads Call.IsReading (· = (spec.statusAt s c, problems)) s := by
  unfold verifyCollection
  unfold problemsAt at h
  split
  · rename_i hlisted
    have hthere := (hexisting c.name).1 (List.contains_iff_mem.1 hlisted)
    rw [if_pos hthere] at h
    refine Program.reads_bind (reads_lookUp (.inr rfl) rfl) fun _ _ => ?_
    refine Program.reads_bind (reads_ask (by simp [Call.kind]) rfl rfl) fun _ hindexes => ?_
    refine Program.reads_bind (reads_ask (by simp [Call.kind]) rfl rfl) fun _ hcount => ?_
    subst hindexes hcount
    rw [h]
    refine Program.reads_done ?_
    simp only [statusAt, hthere]
    rfl
  · rename_i hlisted
    have hnone : s.collection? spec.database c.name = none := by
      rw [← Option.not_isSome_iff_eq_none, ← hexisting, ← List.contains_iff_mem]
      exact hlisted
    rw [hnone] at h
    obtain rfl := Except.ok.inj h
    refine Program.reads_done ?_
    rw [statusAt, Server.documents, Server.collection_of_none hnone, Server.indexInformation, hnone]
    rfl

theorem reads_verifyRole (r : RoleSeed) : (spec.verifyRole r).Reads Call.IsReading
    (· = roleProblems r ((s.documents spec.database rolesCollection).filter r.fits)) s := by
  refine Program.reads_bind (reads_ask (by simp [Call.kind]) rfl rfl) fun _ hdocuments => ?_
  subst hdocuments
  exact Program.reads_done rfl

theorem reads_verifyRoles
    (hexisting : ∀ n, n ∈ existing ↔ (s.collection? spec.database n).isSome) :
    (spec.verifyRoles existing).Reads Call.IsReading (· = spec.roleProblemsAt s) s := by
  unfold verifyRoles
  split
  · rename_i hlisted
    obtain ⟨-, hlisted⟩ := Bool.and_eq_true_iff.1 hlisted
    have hthere := (hexisting rolesCollection).1 (List.contains_iff_mem.1 hlisted)
    refine Program.reads_bind (reads_lookUp (.inr rfl) rfl) fun _ _ => ?_
    refine Program.reads_bind (Program.reads_each_map fun r _ => reads_verifyRole r) fun _ hall => ?_
    refine Program.reads_done ?_
    rw [hall, roleProblemsAt, if_pos hthere, List.flatMap_def]
  · rename_i hlisted
    refine Program.reads_done ?_
    unfold roleProblemsAt
    split
    -- the collection is there, and so there must be no roles
    · rename_i hthere
      have hmem := (hexisting rolesCollection).2 hthere
      have hempty : spec.roles = [] := by
        by_contra hroles
        exact hlisted (by simp [hroles, hmem])
      rw [hempty]
      rfl
    · rfl

/-- What a verification finds, where every declared index can be compared. -/
def found (spec : SeedSpec) (s : Server) (problems : CollectionSpec → List String) : Verification :=
  ⟨spec.database, spec.collections.map (spec.statusAt s),
    spec.collections.flatMap problems ++ spec.roleProblemsAt s⟩

variable {problems : CollectionSpec → List String}

theorem reads_inspectDatabase
    (h : ∀ c ∈ spec.collections, spec.problemsAt s c = .ok (problems c)) :
    spec.inspectDatabase.Reads Call.IsReading (· = spec.found s problems) s := by
  have hlist : (Program.perform (.listCollections spec.database)).Reads Call.IsReading
      (fun (existing : List String) =>
        ∀ n, n ∈ existing ↔ (s.collection? spec.database n).isSome) s := by
    refine reads_ask (by simp [Call.kind]) rfl fun n => ?_
    rw [List.mem_filter, Server.mem_listed]
    simp [Sight.clear]
  refine Program.reads_bind hlist fun existing hexisting => ?_
  refine Program.reads_bind (Program.reads_each_map fun c hc =>
    reads_verifyCollection hexisting (h c hc)) fun _ hcollections => ?_
  refine Program.reads_bind (reads_verifyRoles hexisting) fun _ hroles => ?_
  refine Program.reads_done ?_
  rw [hcollections, hroles, List.map_map, List.map_map, found, List.flatMap_def]
  rfl

/-- A verification only reads, and returns what is found of the server. -/
theorem reads_verify (h : ∀ c ∈ spec.collections, spec.problemsAt s c = .ok (problems c)) :
    spec.verify.Reads Call.IsReading (· = spec.found s problems) s := by
  have hsay (entries : List Entry) : (Program.each Program.say entries).Reads Call.IsReading
      (List.Forall₂ (fun _ _ => True) entries) s := Program.reads_each fun _ _ => Program.reads_say
  refine Program.reads_bind (reads_lookUp (.inl rfl) rfl) fun _ _ => ?_
  refine Program.reads_bind (Program.reads_rescue (reads_inspectDatabase h)) fun _ hfound => ?_
  refine Program.reads_bind (hsay _) fun _ _ => Program.reads_bind (hsay _) fun _ _ => ?_
  exact Program.reads_done hfound

/-! ### When there is no problem -/

/-- The declared indexes of a collection have no problem just when each is reported as it is declared. -/
theorem indexProblems_eq_nil_iff {name : String} {reported : Assoc IndexInfo}
    {indexes : List IndexSpec} {problems : List String}
    (h : indexProblems name reported indexes = .ok problems) :
    problems = [] ↔ ∀ i ∈ indexes, ∃ info, reported.lookup i.indexName = some info ∧
      i.matches? info = .ok true := by
  induction indexes generalizing problems with
  | nil =>
    obtain rfl := Except.ok.inj h
    simp
  | cons i rest ih =>
    rw [indexProblems] at h
    split at h
    · cases h
    rename_i found hfound
    cases hrest : indexProblems name reported rest with
    | error e =>
      rw [hrest] at h
      cases h
    | ok more =>
      rw [hrest] at h
      obtain rfl := Except.ok.inj h
      rw [List.append_eq_nil_iff, List.forall_mem_cons, ih hrest]
      refine and_congr_left fun _ => ?_
      -- the first index: nothing is reported of it, or what is reported can be compared
      rw [indexProblem] at hfound
      cases hl : reported.lookup i.indexName with
      | none =>
        simp only [hl] at hfound
        obtain rfl := Except.ok.inj hfound
        simp
      | some info =>
        simp only [hl] at hfound
        cases hm : i.matches? info with
        | error e =>
          rw [hm] at hfound
          cases hfound
        | ok same =>
          rw [hm] at hfound
          obtain rfl := Except.ok.inj hfound
          cases same <;> simp [hm]

/-- Indexes that are all reported as they are declared can be compared. -/
theorem indexProblems_of_matches {name : String} {reported : Assoc IndexInfo}
    {indexes : List IndexSpec} (h : ∀ i ∈ indexes, ∃ info,
      reported.lookup i.indexName = some info ∧ i.matches? info = .ok true) :
    indexProblems name reported indexes = .ok [] := by
  induction indexes with
  | nil => rfl
  | cons i rest ih =>
    obtain ⟨⟨info, hl, hm⟩, hrest⟩ := List.forall_mem_cons.1 h
    have hfound : indexProblem name reported i = .ok [] := by simp [indexProblem, hl, hm, Except.map]
    rw [indexProblems, hfound, ih hrest]
    rfl

/-- A collection has no problem just when it is there and each of its indexes is reported as declared. -/
theorem problemsAt_eq_nil_iff {problems : List String} (h : spec.problemsAt s c = .ok problems) :
    problems = [] ↔ (s.collection? spec.database c.name).isSome ∧ ∀ i ∈ c.indexes, ∃ info,
      (s.indexInformation spec.database c.name).lookup i.indexName = some info ∧
        i.matches? info = .ok true := by
  unfold problemsAt at h
  split at h
  · rename_i hthere
    rw [indexProblems_eq_nil_iff h, and_iff_right hthere]
  · rename_i hthere
    obtain rfl := Except.ok.inj h
    simp [hthere]

/-- A role has no problem just when one document has its code, and this one has its permissions. -/
theorem roleProblems_eq_nil_iff {r : RoleSeed} {documents : List Fields} :
    roleProblems r documents = [] ↔
      ∃ d, documents = [d] ∧ d.lookup "permissions" = some (.texts r.permissions) := by
  match documents with
  | [] => simp [roleProblems]
  | [d] =>
    have hsame : ((d.lookup "permissions").getD .null).equal (.texts r.permissions) = true ↔
        d.lookup "permissions" = some (.texts r.permissions) := by
      rw [Value.equal_texts_iff]
      cases d.lookup "permissions" <;> simp [Value.texts]
    simp only [roleProblems, ite_eq_left_iff, hsame]
    simp
  | _ :: _ :: _ => simp [roleProblems]

/-- The roles of a valid specification have no problem just when each of them has none, provided that
their collection is there. -/
theorem roleProblemsAt_eq_nil_iff (hthere : (s.collection? spec.database rolesCollection).isSome) :
    spec.roleProblemsAt s = [] ↔ ∀ r ∈ spec.roles, ∃ d,
      (s.documents spec.database rolesCollection).filter r.fits = [d] ∧
        d.lookup "permissions" = some (.texts r.permissions) := by
  rw [roleProblemsAt, if_pos hthere, List.flatMap_eq_nil_iff]
  exact forall₂_congr fun r _ => roleProblems_eq_nil_iff

theorem found_ok_iff : (spec.found s problems).ok = true ↔
    (∀ c ∈ spec.collections, problems c = []) ∧ spec.roleProblemsAt s = [] := by
  rw [Verification.ok, found, List.isEmpty_iff, List.append_eq_nil_iff, List.flatMap_eq_nil_iff]

end SeedSpec

end Bringup
