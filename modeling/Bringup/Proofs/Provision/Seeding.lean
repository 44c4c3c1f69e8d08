import Bringup.Proofs.Program.Halting
import Bringup.Proofs.Provision.Deed
import Bringup.Proofs.Provision.Outline

/-!
# What seeding makes of the role documents

* `RoleSeed.first?`, `RoleSeed.Drifted` : the first stored document of a role, and whether it lacks a
  field of the seed or has another value there;
* `Pass` : a list of seeds, the documents that were stored, and the time; `Pass.aligned` is what becomes
  of a stored document, `Pass.added` are the new ones, and `Pass.action` is what is recorded of a seed;
* `Plan.seedRoles_effect` : the loop over the seeds, each read and then written, comes to this one pass.

The pass looks at the stored documents only, so that no seed sees what was done for another.
-/

namespace Bringup

namespace RoleSeed

/-- The first document that has the code of the role. -/
def first? (r : RoleSeed) (documents : List Fields) : Option Fields :=
  documents.find? fun d => d.lookup "code" = some (.str r.code)

/-- The document lacks a field of the seed, or has another value there. -/
def Drifted (r : RoleSeed) (d : Fields) : Prop :=
  d.lookup "name" ≠ some (.str r.name) ∨ d.lookup "description" ≠ some (.str r.description) ∨
    d.lookup "permissions" ≠ some (.texts r.permissions)

instance (r : RoleSeed) (d : Fields) : Decidable (r.Drifted d) :=
  inferInstanceAs (Decidable (_ ∨ _ ∨ _))

/-- The document with the fields of the seed, and with a new time of its last change. -/
def align (r : RoleSeed) (now : Instant) (d : Fields) : Fields :=
  Assoc.put "updated_at" (.date now) (Assoc.put "permissions" (.texts r.permissions)
    (Assoc.put "description" (.str r.description) (Assoc.put "name" (.str r.name) d)))

/-- The document that is inserted for the role. -/
def inserted (r : RoleSeed) (identity : Value) (now : Instant) : Fields :=
  [("_id", identity), ("code", .str r.code), ("name", .str r.name),
    ("description", .str r.description), ("permissions", .texts r.permissions),
    ("created_at", .date now), ("updated_at", .date now)]

variable {r : RoleSeed} {d : Fields} {documents : List Fields}

theorem first?_eq : r.first? documents = documents.find? r.fits := by
  have hsame : (fun d => decide (d.lookup "code" = some (.str r.code))) = r.fits := by
    funext d
    rw [Bool.eq_iff_iff, decide_eq_true_iff, fits_iff]
  rw [first?, hsame]

theorem differs_iff_drifted : r.differs d = true ↔ r.Drifted d := by
  rw [← Bool.not_eq_false, differs_eq_false_iff, Drifted]
  tauto

end RoleSeed

/-- Seeds that are brought in by a policy at a time, next to the documents that are stored. -/
structure Pass where
  policy : SeedPolicy
  seeds : List RoleSeed
  old : List Fields
  now : Instant

namespace Pass

variable (P : Pass)

/-- What becomes of a stored document: under the policy that reconciles, one that is the first of its role
and has drifted is brought in line. -/
def aligned (d : Fields) : Fields :=
  match P.policy with
  | .skip => d
  | .upsert =>
    match P.seeds.find? fun r => r.first? P.old = some d ∧ r.Drifted d with
    | some r => r.align P.now d
    | none => d

/-- The roles of which no document is stored. -/
def missing : List RoleSeed := P.seeds.filter fun r => (r.first? P.old).isNone

/-- The new documents, one for each role that had none; `k` identities were given out before. -/
def added (k : Nat) : List Fields :=
  P.missing.mapIdx fun i r => r.inserted (Server.issued (k + i)) P.now

/-- All documents after the pass. -/
def documents (k : Nat) : List Fields := P.old.map P.aligned ++ P.added k

/-- What is recorded of a seed. -/
def action (r : RoleSeed) : Action :=
  match r.first? P.old with
  | none => .created
  | some d =>
    match P.policy with
    | .skip => .skipped
    | .upsert => if r.Drifted d then .updated else .unchanged

/-- The pass with one more seed. -/
def extend (q : RoleSeed) : Pass := { P with seeds := P.seeds ++ [q] }

variable {P} {q : RoleSeed} {d : Fields} {k : Nat}

/-! ### One more seed -/

/-- Fields that no seed owns keep their values. -/
theorem lookup_aligned {field : String} (hname : field ≠ "name")
    (hdescription : field ≠ "description") (hpermissions : field ≠ "permissions")
    (hupdated : field ≠ "updated_at") : (P.aligned d).lookup field = d.lookup field := by
  unfold aligned
  split
  · rfl
  · split
    · exact RoleSeed.lookup_revised hname hdescription hpermissions hupdated
    · rfl

/-- A stored document is the first one of one seed only. -/
theorem not_first?_of_mem (hnew : q.code ∉ P.seeds.map RoleSeed.code)
    (hq : q.first? P.old = some d) {r : RoleSeed} (hr : r ∈ P.seeds) : r.first? P.old ≠ some d := by
  intro hd
  rw [RoleSeed.first?_eq] at hq hd
  have hcode := RoleSeed.code_eq_of_fits (List.find?_some hd) (List.find?_some hq)
  exact hnew (hcode ▸ List.mem_map_of_mem hr)

theorem aligned_extend (hnew : q.code ∉ P.seeds.map RoleSeed.code) : (P.extend q).aligned d =
    if P.policy = .upsert ∧ q.first? P.old = some d ∧ q.Drifted d then q.align P.now d
    else P.aligned d := by
  unfold aligned extend
  cases P.policy with
  | skip => rw [if_neg (fun h => by cases h.1)]
  | upsert =>
    simp only [List.find?_append, true_and]
    by_cases hq : q.first? P.old = some d ∧ q.Drifted d
    · have hnone : P.seeds.find? (fun r => r.first? P.old = some d ∧ r.Drifted d) = none :=
        List.find?_eq_none.2 fun r hr hd =>
          not_first?_of_mem hnew hq.1 hr (of_decide_eq_true hd).1
      rw [hnone, if_pos hq, Option.none_or, List.find?_singleton, if_pos (decide_eq_true hq)]
    · rw [if_neg hq, List.find?_singleton, if_neg (fun h => hq (of_decide_eq_true h)), Option.or_none]

/-- Before its own turn, the first document of a seed is as it was. -/
theorem aligned_of_first? (hnew : q.code ∉ P.seeds.map RoleSeed.code)
    (hq : q.first? P.old = some d) : P.aligned d = d := by
  unfold aligned
  split
  · rfl
  · rw [List.find?_eq_none.2 fun r hr hd => not_first?_of_mem hnew hq hr (of_decide_eq_true hd).1]

theorem code_of_mem_added (h : d ∈ P.added k) :
    ∃ r ∈ P.seeds, d.lookup "code" = some (.str r.code) := by
  obtain ⟨i, hi, rfl⟩ := List.mem_mapIdx.1 h
  exact ⟨P.missing[i], List.mem_of_mem_filter (List.getElem_mem hi), rfl⟩

/-- Before its own turn, a seed finds what it found among the documents that were stored. -/
theorem first?_documents (hnew : q.code ∉ P.seeds.map RoleSeed.code) :
    q.first? (P.documents k) = q.first? P.old := by
  have hold : q.first? (P.old.map P.aligned) = q.first? P.old := by
    have hcode (d : Fields) : (P.aligned d).lookup "code" = d.lookup "code" :=
      lookup_aligned (by decide) (by decide) (by decide) (by decide)
    rw [RoleSeed.first?, List.find?_map]
    simp only [Function.comp_def, hcode]
    cases h : q.first? P.old with
    | none => exact congrArg (Option.map P.aligned) h
    | some d =>
      refine (congrArg (Option.map P.aligned) h).trans ?_
      rw [Option.map_some, aligned_of_first? hnew h]
  have hadded : q.first? (P.added k) = none := by
    refine List.find?_eq_none.2 fun d hd hfound => ?_
    obtain ⟨r, hr, hcode⟩ := code_of_mem_added hd
    obtain hsame : r.code = q.code := by simpa [hcode] using hfound
    exact hnew (hsame ▸ List.mem_map_of_mem hr)
  rw [documents, RoleSeed.first?, List.find?_append]
  change (q.first? (P.old.map P.aligned)).or (q.first? (P.added k)) = _
  rw [hold, hadded, Option.or_none]

/-- A seed of which no document is stored adds one. -/
theorem documents_extend_of_none (hnew : q.code ∉ P.seeds.map RoleSeed.code)
    (hq : q.first? P.old = none) : (P.extend q).documents k =
      P.documents k ++ [q.inserted (Server.issued (k + P.missing.length)) P.now] ∧
    (P.extend q).missing.length = P.missing.length + 1 := by
  have hmissing : (P.extend q).missing = P.missing ++ [q] := by
    rw [missing, extend, List.filter_append]
    simp [missing, hq]
  have haligned : (P.extend q).aligned = P.aligned := by
    funext d
    rw [aligned_extend hnew, if_neg (by simp [hq])]
  refine ⟨?_, by rw [hmissing, List.length_append, List.length_singleton]⟩
  rw [documents, haligned, added, hmissing, List.mapIdx_concat, documents, List.append_assoc]
  rfl

/-- Any other adds none. -/
theorem missing_extend_of_some (hq : q.first? P.old = some d) :
    (P.extend q).missing = P.missing := by
  rw [missing, extend, List.filter_append]
  simp [missing, hq]

/-- A seed whose first document stays as it is changes nothing. -/
theorem documents_extend_of_kept (hnew : q.code ∉ P.seeds.map RoleSeed.code)
    (hq : q.first? P.old = some d) (hkept : ¬ (P.policy = .upsert ∧ q.Drifted d)) :
    (P.extend q).documents k = P.documents k := by
  have haligned : (P.extend q).aligned = P.aligned := by
    funext e
    rw [aligned_extend hnew, if_neg]
    rintro ⟨hpolicy, he, hdrifted⟩
    obtain rfl : d = e := Option.some.inj (hq.symm.trans he)
    exact hkept ⟨hpolicy, hdrifted⟩
  rw [documents, haligned, added, missing_extend_of_some hq]
  rfl

/-- A stored document is still found by its identity. -/
theorem identity_found (hid : Identified P.old) (hd : d ∈ P.old) {v : Value}
    (hv : d.lookup "_id" = some v) :
    ((P.documents k).find? (matchesFilter [("_id", v)])).isSome := by
  refine List.find?_isSome.2 ⟨P.aligned d, List.mem_append_left _ (List.mem_map_of_mem hd), ?_⟩
  rw [matchesFilter_singleton, lookup_aligned (by decide) (by decide) (by decide) (by decide),
    ← matchesFilter_singleton]
  exact (hid.matches_iff hd hd hv).2 rfl

/-- A drifted first document is found by its identity, and brought in line. -/
theorem documents_extend_of_drifted (hnew : q.code ∉ P.seeds.map RoleSeed.code)
    (hid : Identified P.old) (hq : q.first? P.old = some d) (hpolicy : P.policy = .upsert)
    (hdrifted : q.Drifted d) {v : Value} (hv : d.lookup "_id" = some v) :
    updateFirst [("_id", v)] (q.align P.now) (P.documents k) = (P.extend q).documents k := by
  have hmem : d ∈ P.old := List.mem_of_find?_eq_some hq
  have hadded : (P.extend q).added k = P.added k := by
    rw [added, missing_extend_of_some hq]
    rfl
  rw [documents, documents, hadded]
  refine Plan.updateFirst_map hid.nodup hmem (fun e he => ?_) (fun e he hne => ?_) ?_
  · rw [← hid.matches_iff hmem he hv, matchesFilter_singleton, matchesFilter_singleton,
      lookup_aligned (by decide) (by decide) (by decide) (by decide)]
  · rw [aligned_extend hnew, if_neg]
    rintro ⟨-, he, -⟩
    exact hne (Option.some.inj (he.symm.trans hq))
  · rw [aligned_extend hnew, if_pos ⟨hpolicy, hq, hdrifted⟩, aligned_of_first? hnew hq]

end Pass

namespace Plan

/-- The servers differ in the role documents and in the identities that were given out, and in nothing
else. -/
structure SameButRoles (plan : Plan) (s t : Server) : Prop where
  users : t.users = s.users
  elsewhere : ∀ db, db ≠ plan.database → t.databases.lookup db = s.databases.lookup db
  collections : ∀ n, n ≠ rolesCollection →
    t.collection? plan.database n = s.collection? plan.database n
  indexes : (t.collection plan.database rolesCollection).indexes =
    (s.collection plan.database rolesCollection).indexes

/-- The pass of some seeds over the documents of a server. -/
def pass (plan : Plan) (now : Instant) (s : Server) (seeds : List RoleSeed) : Pass :=
  ⟨plan.policy, seeds, plan.roleDocuments s, now⟩

/-- The server after some of the seeds: the pass was made as far as these. -/
structure SeededBy (plan : Plan) (now : Instant) (s : Server) (seeds : List RoleSeed) (t : Server) :
    Prop where
  documents : plan.roleDocuments t = (plan.pass now s seeds).documents s.identities
  identities : t.identities = s.identities + (plan.pass now s seeds).missing.length
  others : plan.SameButRoles s t

variable {plan : Plan} {now : Instant} {s t : Server} {seeds : List RoleSeed} {q : RoleSeed}
  {d : Fields} {documents : List Fields} {k : Nat}

theorem SameButRoles.put (h : plan.SameButRoles s t) : plan.SameButRoles s
    (plan.put t rolesCollection
      { t.collection plan.database rolesCollection with documents := documents } k) where
  users := h.users
  elsewhere := fun db hdb => (Server.databases_putCollection hdb).trans (h.elsewhere db hdb)
  collections := fun n hn => by rw [collection?_put, if_neg hn, h.collections n hn]
  indexes := by
    rw [Server.collection, collection?_put, if_pos rfl]
    exact h.indexes

theorem roleDocuments_putRoles : plan.roleDocuments (plan.put t rolesCollection
    { t.collection plan.database rolesCollection with documents := documents } k) = documents := by
  rw [roleDocuments, documents_put, if_pos rfl]

theorem seededBy_nil : plan.SeededBy now s [] s where
  documents := by
    have haligned (d : Fields) : (plan.pass now s []).aligned d = d := by
      unfold Pass.aligned
      split <;> rfl
    rw [Pass.documents, funext haligned, List.map_id']
    exact (List.append_nil _).symm
  identities := rfl
  others := ⟨rfl, fun _ _ => rfl, fun _ _ => rfl, rfl⟩

/-! ### One seed -/

/-- A document that is there is not inserted again. -/
theorem insertRole_of_stored {present : Action} (hd : q.first? (plan.roleDocuments t) = some d) :
    (plan.insertRole q now present).Assures (.alone (.faultless .clear)) (fun a u => a = present ∧ u = t)
      (fun _ _ => False) t := by
  rw [RoleSeed.first?_eq] at hd
  have hfound : ((t.documents plan.database rolesCollection).find?
      (matchesFilter (codeFilter q))).isSome := by
    change ((plan.roleDocuments t).find? q.fits).isSome
    rw [hd]
    rfl
  exact Program.assures_bind (Program.assures_answered
    (Server.answer_insertIfAbsent.trans (if_pos hfound)) (Program.assures_done ⟨rfl, rfl⟩))

/-- The document of a role that has none is put at the end. -/
theorem insertRole_of_none {present : Action} (hnone : q.first? (plan.roleDocuments t) = none) :
    (plan.insertRole q now present).Assures (.alone (.faultless .clear))
      (fun a u => a = .created ∧ u = plan.put t rolesCollection
        { t.collection plan.database rolesCollection with
          documents := plan.roleDocuments t ++ [q.inserted (Server.issued t.identities) now] }
        (t.identities + 1))
      (fun _ _ => False) t := by
  rw [RoleSeed.first?_eq] at hnone
  have hfound : ¬ ((t.documents plan.database rolesCollection).find?
      (matchesFilter (codeFilter q))).isSome := by
    change ¬ ((plan.roleDocuments t).find? q.fits).isSome
    rw [hnone]
    exact Bool.false_ne_true
  exact Program.assures_bind (Program.assures_answered
    (Server.answer_insertIfAbsent.trans (if_neg hfound)) (Program.assures_done ⟨rfl, insert_role⟩))

/-- A seed that has a document of its own takes no new identity. -/
theorem SeededBy.identities_of_stored (h : plan.SeededBy now s seeds t)
    (hd : q.first? (plan.roleDocuments s) = some d) :
    t.identities = s.identities + (plan.pass now s (seeds ++ [q])).missing.length := by
  have hmissing : (plan.pass now s (seeds ++ [q])).missing = (plan.pass now s seeds).missing :=
    Pass.missing_extend_of_some (P := plan.pass now s seeds) hd
  rw [hmissing]
  exact h.identities

/-- A seed whose document is left as it is adds nothing to the pass. -/
theorem SeededBy.keep (hnew : q.code ∉ seeds.map RoleSeed.code) (h : plan.SeededBy now s seeds t)
    (hd : q.first? (plan.roleDocuments s) = some d)
    (hkept : ¬ (plan.policy = .upsert ∧ q.Drifted d)) : plan.SeededBy now s (seeds ++ [q]) t where
  documents := h.documents.trans
    (Pass.documents_extend_of_kept (P := plan.pass now s seeds) hnew hd hkept).symm
  identities := h.identities_of_stored hd
  others := h.others

/-- A seed without a document gets one at the end, under the next identity. -/
theorem insertRole_effect {present : Action} (hnew : q.code ∉ seeds.map RoleSeed.code)
    (h : plan.SeededBy now s seeds t) (hnone : q.first? (plan.roleDocuments s) = none)
    (hfirst : q.first? (plan.roleDocuments t) = none) :
    (plan.insertRole q now present).Assures (.alone (.faultless .clear))
      (fun a u => a = .created ∧ plan.SeededBy now s (seeds ++ [q]) u) (fun _ _ => False) t := by
  obtain ⟨hdocuments, hmissing⟩ := Pass.documents_extend_of_none (P := plan.pass now s seeds)
    (k := s.identities) hnew hnone
  refine (insertRole_of_none hfirst).mono (fun a u hu => ⟨hu.1, ?_⟩) fun _ _ hf => hf
  obtain ⟨-, rfl⟩ := hu
  refine ⟨?_, ?_, h.others.put⟩
  · rw [roleDocuments_putRoles, h.documents, h.identities]
    exact hdocuments.symm
  · exact (congrArg (· + 1) h.identities).trans (congrArg (s.identities + ·) hmissing.symm)

/-- A stored document is left as it is when it has not drifted, and else changed where its identity is
found. -/
theorem updateRole_effect (hid : Identified (plan.roleDocuments s))
    (hnew : q.code ∉ seeds.map RoleSeed.code) (h : plan.SeededBy now s seeds t)
    (hpolicy : plan.policy = .upsert) (hd : q.first? (plan.roleDocuments s) = some d) :
    (plan.updateRole q now d).Assures (.alone (.faultless .clear))
      (fun a u => a = (if q.Drifted d then .updated else .unchanged) ∧
        plan.SeededBy now s (seeds ++ [q]) u)
      (fun _ _ => False) t := by
  unfold updateRole
  by_cases hdrifted : q.Drifted d
  · have hmem : d ∈ plan.roleDocuments s := List.mem_of_find?_eq_some hd
    obtain ⟨v, hv, -⟩ := hid.identity d hmem
    rw [if_pos (RoleSeed.differs_iff_drifted.2 hdrifted), if_pos hdrifted, hv]
    have hfound : ((t.documents plan.database rolesCollection).find?
        (matchesFilter [("_id", v)])).isSome := by
      change ((plan.roleDocuments t).find? _).isSome
      rw [h.documents]
      exact Pass.identity_found hid hmem hv
    have hchanged : updateFirst [("_id", v)] (q.align now) (plan.roleDocuments t) =
        (plan.pass now s (seeds ++ [q])).documents s.identities := by
      rw [h.documents]
      exact Pass.documents_extend_of_drifted (P := plan.pass now s seeds) hnew hid hd hpolicy
        hdrifted hv
    exact Program.assures_bind (Program.assures_answered (Server.answer_setFields hfound)
      (Program.assures_done ⟨rfl, (roleDocuments_putRoles (k := t.identities)).trans hchanged,
        h.identities_of_stored hd, h.others.put (k := t.identities)⟩))
  · rw [if_neg (fun h => hdrifted (RoleSeed.differs_iff_drifted.1 h)), if_neg hdrifted]
    exact Program.assures_done ⟨rfl, h.keep hnew hd fun hkept => hdrifted hkept.2⟩

/-- One seed comes to one more seed of the pass. -/
theorem writeRole_effect (hid : Identified (plan.roleDocuments s))
    (hnew : q.code ∉ seeds.map RoleSeed.code) (h : plan.SeededBy now s seeds t) :
    (plan.writeRole q now).Assures (.alone (.faultless .clear))
      (fun a u => a = (plan.pass now s seeds).action q ∧ plan.SeededBy now s (seeds ++ [q]) u)
      (fun _ _ => False) t := by
  -- the seed finds in the documents of now what it found in those of the beginning
  have hfirst : q.first? (plan.roleDocuments t) = q.first? (plan.roleDocuments s) := by
    rw [h.documents]
    exact Pass.first?_documents hnew
  unfold writeRole Pass.action
  change Program.Assures _ (fun a u => a = (match q.first? (plan.roleDocuments s) with
    | none => Action.created
    | some d => match plan.policy with
      | .skip => .skipped
      | .upsert => if q.Drifted d then .updated else .unchanged) ∧ _) _ _ _
  cases hpolicy : plan.policy with
  | skip =>
    cases hd : q.first? (plan.roleDocuments s) with
    | none => exact insertRole_effect hnew h hd (hfirst.trans hd)
    | some d =>
      refine (insertRole_of_stored (hfirst.trans hd)).mono (fun a u hu => ⟨hu.1, ?_⟩) fun _ _ hf => hf
      obtain ⟨-, rfl⟩ := hu
      refine h.keep hnew hd ?_
      rintro ⟨hupsert, -⟩
      cases hpolicy.symm.trans hupsert
  | upsert =>
    have hanswer : t.answer .clear (.findOne plan.database rolesCollection (codeFilter q)) =
        (.ok (q.first? (plan.roleDocuments s)), t) :=
      Server.answer_findOne (RoleSeed.first?_eq.symm.trans hfirst)
    refine Program.assures_bind (Program.assures_answered hanswer ?_)
    cases hd : q.first? (plan.roleDocuments s) with
    | none => exact insertRole_effect hnew h hd (hfirst.trans hd)
    | some d => exact updateRole_effect hid hnew h hpolicy hd

theorem seedRole_effect (hid : Identified (plan.roleDocuments s))
    (hnew : q.code ∉ seeds.map RoleSeed.code) (h : plan.SeededBy now s seeds t) :
    (plan.seedRole now q).Assures (.alone (.faultless .clear))
      (fun o u => o = ⟨.seed, q.code, (plan.pass now s seeds).action q⟩ ∧
        plan.SeededBy now s (seeds ++ [q]) u)
      (fun _ _ => False) t := by
  refine Program.assures_bind (Program.assures_rescue ((writeRole_effect hid hnew h).mono
    (fun a u hu => ?_) fun _ _ hf => hf.elim))
  obtain ⟨rfl, hu⟩ := hu
  exact Program.assures_bind (Program.assures_say (Program.assures_done ⟨rfl, hu⟩))

/-! ### All seeds -/

/-- **The effect on the role documents.**  Writing the role documents comes to one pass over those that are
stored.  The older documents are there in their order, and only the first one of a seed that has drifted
from it is changed, in the fields of the seed and in the time of its last change, and only under the policy
that reconciles.  After them there is one new document for each seed that had none, in the order of the
seeds.  What is recorded of each seed tells which of this was done; and nothing else on the server is
touched. -/
theorem seedRoles_effect (plan : Plan) (now : Instant) (s : Server)
    (hcodes : (plan.spec.roles.map RoleSeed.code).Nodup) (hid : Identified (plan.roleDocuments s)) :
    let run := (plan.seedRoles now).run .clear s []
    let pass : Pass := ⟨plan.policy, plan.spec.roles, plan.roleDocuments s, now⟩
    run.result = .ok (plan.spec.roles.map fun r => ⟨.seed, r.code, pass.action r⟩) ∧
      plan.roleDocuments run.server = pass.old.map pass.aligned ++ pass.added s.identities ∧
      plan.SameButRoles s run.server := by
  intro run pass
  let inv (before : List RoleSeed) (outcomes : List Outcome) (t : Server) : Prop :=
    outcomes = before.map (fun r => ⟨.seed, r.code, pass.action r⟩) ∧ plan.SeededBy now s before t
  have hstart : inv [] [] s := ⟨rfl, seededBy_nil⟩
  have hloop : (Program.each (plan.seedRole now) plan.spec.roles).Assures (.alone (.faultless .clear))
      (fun outcomes t => inv plan.spec.roles outcomes t) (fun _ _ => False) s := by
    refine Program.assures_each_with (fun before q after outcomes t hseeds h => ?_) hstart
    have hnew : q.code ∉ before.map RoleSeed.code := Program.new_of_nodup_map hcodes hseeds
    refine (seedRole_effect hid hnew h.2).mono (fun o u hu => ⟨?_, hu.2⟩) fun _ _ hf => hf
    rw [h.1, hu.1, List.map_append]
    rfl
  have hassures : (plan.seedRoles now).Assures (.alone (.faultless .clear))
      (fun outcomes t => inv plan.spec.roles outcomes t) (fun _ _ => False) s := by
    unfold seedRoles
    split
    · rename_i hempty
      rw [List.isEmpty_iff.1 hempty]
      exact Program.assures_done hstart
    · exact Program.assures_bind (Program.assures_answered rfl hloop)
  obtain ⟨outcomes, hresult, heq, hseeded⟩ := (hassures.course
    (Program.course_run_faultless (plan.seedRoles now)) rfl fun _ => rfl).1.exists_ok
  exact ⟨hresult.trans (congrArg Except.ok heq), hseeded.documents, hseeded.others⟩

/-- Of two documents of one role the first is brought in line, and keeps the field that is not the
seed's; the other role had none. -/
theorem seedRoles_effect_twice :
    let old : List Fields := [[("_id", .int 1), ("name", .int 0), ("code", .str "admin"), ("rank", .int 7)],
      [("_id", .int 2), ("code", .str "admin")]]
    let run := (builtIn.seedRoles .epoch).run .clear ⟨[], [("app", [("roles", ⟨[], old⟩)])], 3⟩ []
    run.result = .ok [⟨.seed, "admin", .updated⟩, ⟨.seed, "user", .created⟩] ∧
      builtIn.roleDocuments run.server =
        [[("_id", .int 1), ("name", .str "管理员"), ("code", .str "admin"), ("rank", .int 7),
            ("description", .str "系统管理员角色"), ("permissions", .texts ["*"]), ("updated_at", .date .epoch)],
          [("_id", .int 2), ("code", .str "admin")],
          [("_id", .str "id4"), ("code", .str "user"), ("name", .str "普通用户"),
            ("description", .str "普通用户角色"), ("permissions", .texts ["read", "write"]),
            ("created_at", .date .epoch), ("updated_at", .date .epoch)]] := by
  intro old run
  obtain ⟨hresult, hdocuments, -⟩ := seedRoles_effect builtIn .epoch
    ⟨[], [("app", [("roles", ⟨[], old⟩)])], 3⟩ (by decide +kernel) (by decide +kernel)
  exact ⟨hresult.trans (congrArg Except.ok (by decide +kernel)), hdocuments.trans (by decide +kernel)⟩

end Plan

end Bringup
