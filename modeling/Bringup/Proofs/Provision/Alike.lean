import Bringup.Proofs.Provision.Revision
import Mathlib.Data.List.Perm.Subperm

/-!
# Servers that agree

* `AlikeField`, `Plan.AlikeDocument` : role documents that agree but for the times that a run writes into
  them, and for identities that the server gave out;
* `Plan.Alike` : servers with the same users, other databases, collections, indexes by name, and
  documents in the same order, where role documents need only agree in this way;
* `Plan.Revised.alike` : documents that come from the same older ones agree once every role is settled.
-/

namespace Bringup

/-- An identity that a server gives out after `n` others. -/
def Generated (n : Nat) (v : Value) : Prop := ∃ k, n ≤ k ∧ v = Server.issued k

/-- Fields that agree but for a time that a run writes, or an identity that was given out. -/
def AlikeField (n : Nat) (f g : String × Value) : Prop :=
  f.1 = g.1 ∧ (f.2 = g.2 ∨ f.1 = "created_at" ∨ f.1 = "updated_at" ∨
    f.1 = "_id" ∧ Generated n f.2 ∧ Generated n g.2)

theorem AlikeField.refl {n : Nat} {f : String × Value} : AlikeField n f f := ⟨rfl, .inl rfl⟩

namespace Plan

variable (plan : Plan)

/-- Documents that are equal, or documents of one seed role whose fields agree. -/
def AlikeDocument (n : Nat) (d e : Fields) : Prop :=
  d = e ∨ (∃ r ∈ plan.seeds, r.fits d = true ∧ r.fits e = true) ∧ List.Forall₂ (AlikeField n) d e

/-- Collections with the same indexes by name and the same documents in their order. -/
structure AlikeCollection (n : Nat) (name : String) (c d : Collection) : Prop where
  indexes : ∀ index, c.indexes.lookup index = d.indexes.lookup index
  documents : if name = rolesCollection then
      List.Forall₂ (plan.AlikeDocument n) c.documents d.documents
    else c.documents = d.documents

/-- Servers that agree but for the times in role documents, and for identities given out after `n`
others. -/
structure Alike (n : Nat) (s t : Server) : Prop where
  users : s.users = t.users
  elsewhere : ∀ d, d ≠ plan.database → s.databases.lookup d = t.databases.lookup d
  collections : ∀ name, Option.Rel (plan.AlikeCollection n name)
    (s.collection? plan.database name) (t.collection? plan.database name)

variable {plan} {n : Nat}

theorem AlikeCollection.refl {name : String} {c : Collection} : plan.AlikeCollection n name c c := by
  refine ⟨fun _ => rfl, ?_⟩
  split
  · exact List.forall₂_same.2 fun _ _ => .inl rfl
  · rfl

/-! ### Documents that come from the same older ones -/

/-- A field that a run writes may have any two values. -/
theorem forall₂_put {field : String} {v w : Value} {d : Fields}
    (h : field = "created_at" ∨ field = "updated_at") :
    List.Forall₂ (AlikeField n) (Assoc.put field v d) (Assoc.put field w d) := by
  have hfield : AlikeField n (field, v) (field, w) := ⟨rfl, .inr (h.imp_right .inl)⟩
  induction d with
  | nil => exact .cons hfield .nil
  | cons p d ih =>
    obtain ⟨k, u⟩ := p
    rw [Assoc.put, Assoc.put]
    split
    · rename_i hk
      obtain rfl := beq_iff_eq.1 hk
      exact .cons hfield (List.forall₂_same.2 fun _ _ => .refl)
    · exact .cons .refl ih

/-- Two revisions of a document agree. -/
theorem forall₂_revised {r : RoleSeed} {t u : Instant} {d : Fields} :
    List.Forall₂ (AlikeField n) (r.revised t d) (r.revised u d) := by
  rw [RoleSeed.revised, RoleSeed.revised, Assoc.putAll_append, Assoc.putAll_append]
  exact forall₂_put (.inr rfl)

/-- Two documents that were inserted for a role agree. -/
theorem alike_inserted {clock : Instant → Prop} {r : RoleSeed} {d e : Fields} (hr : r ∈ plan.seeds)
    (hd : Inserted clock n r d) (he : Inserted clock n r e) : plan.AlikeDocument n d e := by
  refine .inr ⟨⟨r, hr, hd.fits_iff.2 rfl, he.fits_iff.2 rfl⟩, ?_⟩
  obtain ⟨k, t, hk, -, rfl⟩ := hd
  obtain ⟨l, u, hl, -, rfl⟩ := he
  refine .cons ⟨rfl, .inr (.inr (.inr ⟨rfl, ⟨k, hk, rfl⟩, l, hl, rfl⟩))⟩ (.cons .refl ?_)
  refine .cons .refl (.cons .refl (.cons .refl ?_))
  exact .cons ⟨rfl, .inr (.inl rfl)⟩ (.cons ⟨rfl, .inr (.inr (.inl rfl))⟩ .nil)

variable {clock : Instant → Prop} {old documents documents' : List Fields}

/-- Once every role is settled, the roles that had no document have all been inserted. -/
theorem done_eq_missing (hv : plan.spec.Valid) {times : String → Option Instant}
    {done : List RoleSeed} {new : List Fields} (hdone : done <+: plan.missing old)
    (hnew : List.Forall₂ (Inserted clock n) done new)
    (hset : ∀ r ∈ plan.seeds, plan.Settled (old.map (plan.revise times old) ++ new) r) :
    done = plan.missing old := by
  -- what was inserted is a prefix of what was missing, so it is enough to compare the lengths
  refine hdone.eq_of_length_le ?_
  have hnodup : (plan.missing old).Nodup := (seeds_nodup hv).filter _
  refine (hnodup.subperm fun r hr => ?_).length_le
  rcases find?_missing times hv hdone hnew hr with ⟨hm, -⟩ | ⟨-, hnone⟩
  · exact hm
  · obtain ⟨d, hd, -⟩ := hset r (mem_missing.1 hr).1
    rw [hnone] at hd
    cases hd

/-- What became of a stored document differs in the time of its revision only. -/
theorem alike_revise (hv : plan.spec.Valid) {times times' : String → Option Instant}
    {new new' : List Fields}
    (hset : ∀ r ∈ plan.seeds, plan.Settled (old.map (plan.revise times old) ++ new) r)
    (hset' : ∀ r ∈ plan.seeds, plan.Settled (old.map (plan.revise times' old) ++ new') r)
    (d : Fields) : plan.AlikeDocument n (plan.revise times old d) (plan.revise times' old d) := by
  cases ho : plan.owner? old d with
  | none => exact .inl (by rw [revise, revise, ho])
  | some r =>
    obtain ⟨hr, hd⟩ := (owner?_eq_some_iff hv).1 ho
    -- a document that differs from the seed was revised on both sides, or it would not be settled
    have revised {times : String → Option Instant} {new : List Fields}
        (hset : ∀ r ∈ plan.seeds, plan.Settled (old.map (plan.revise times old) ++ new) r)
        (hdiff : plan.policy = .upsert ∧ r.differs d = true) :
        ∃ t, plan.revise times old d = r.revised t d := by
      obtain ⟨e, he, hset⟩ := hset r hr
      rw [find?_revised_of_some hd] at he
      obtain rfl := Option.some.inj he
      have hset := hset hdiff.1
      rw [revise_of_find? hv hr hd, if_pos hdiff] at hset ⊢
      cases ht : times r.code with
      | none => simp [ht, hdiff.2] at hset
      | some t => exact ⟨t, rfl⟩
    by_cases hdiff : plan.policy = .upsert ∧ r.differs d = true
    · obtain ⟨t, ht⟩ := revised hset hdiff
      obtain ⟨u, hu⟩ := revised hset' hdiff
      have hfits := List.find?_some hd
      refine .inr ⟨⟨r, hr, by rw [fits_revise, hfits], by rw [fits_revise, hfits]⟩, ?_⟩
      rw [ht, hu]
      exact forall₂_revised
    · exact .inl (by
        rw [revise_of_find? hv hr hd, revise_of_find? hv hr hd, if_neg hdiff, if_neg hdiff])

/-- Documents that come from the same older ones agree once every role is settled. -/
theorem Revised.alike (hv : plan.spec.Valid) (h : plan.Revised clock n old documents)
    (h' : plan.Revised clock n old documents') (hset : ∀ r ∈ plan.seeds, plan.Settled documents r)
    (hset' : ∀ r ∈ plan.seeds, plan.Settled documents' r) :
    List.Forall₂ (plan.AlikeDocument n) documents documents' := by
  obtain ⟨times, done, new, -, hdone, hnew, rfl⟩ := h
  obtain ⟨times', done', new', -, hdone', hnew', rfl⟩ := h'
  obtain rfl := done_eq_missing hv hdone hnew hset
  obtain rfl := done_eq_missing hv hdone' hnew' hset'
  refine List.rel_append ?_ ?_
  · rw [List.forall₂_map_left_iff, List.forall₂_map_right_iff]
    exact List.forall₂_same.2 fun d _ => alike_revise hv hset hset' d
  · refine List.forall₂_iff_get.2 ⟨hnew.length_eq.symm.trans hnew'.length_eq, fun i hi hi' => ?_⟩
    have hlt : i < (plan.missing old).length := hnew.length_eq ▸ hi
    exact alike_inserted (mem_missing.1 (List.get_mem _ ⟨i, hlt⟩)).1 (hnew.get hlt hi)
      (hnew'.get hlt hi')

end Plan

end Bringup
