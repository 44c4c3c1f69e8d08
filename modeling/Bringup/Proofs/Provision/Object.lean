import Bringup.Proofs.Provision.Reach

/-!
# The objects of a run

* `Object` : a user, a collection, an index of a collection, or the documents of a role;
* `Plan.objects` : what a run deals with, in its order; no object comes twice, and users and collections
  come before what is in the collections (`Plan.objects_pairwise`);
* `Plan.Absent`, `Plan.Same`, `Plan.Rewritten` : an object is not there, it is as it was, or the content of
  one of its documents has changed.

Indexes and role documents are objects of their own.  So a collection is as it was when it is there as
before, with the same indexes under names that are not declared and the same documents of no seed.
-/

namespace Bringup

/-- What a run deals with. -/
inductive Object where
  | user (name : String)
  | collection (name : String)
  | index (collection : String) (index : IndexSpec)
  | role (role : RoleSeed)
  deriving DecidableEq

namespace Object

/-- The step that deals with the object. -/
def step : Object → Step
  | .user _ => .principal
  | .collection _ => .collections
  | .index .. => .indexes
  | .role _ => .seed

/-- What names the object in a report. -/
def target : Object → String
  | .user name => name
  | .collection name => name
  | .index n i => s!"{n}.{i.indexName}"
  | .role r => r.code

/-- The outcome of an action on the object. -/
def outcome (o : Object) (action : Action) : Outcome := ⟨o.step, o.target, action⟩

/-- The object is in a collection. -/
def IsContent : Object → Prop
  | .user _ | .collection _ => False
  | .index .. | .role _ => True

end Object

namespace Plan

variable (plan : Plan)

/-- The objects of a run, in the order in which it deals with them. -/
def objects : List Object :=
  (if plan.skipPrincipal then [] else [.user plan.spec.principal.name])
    ++ plan.spec.collectionNames.map .collection
    ++ plan.spec.places.map (fun p => .index p.1 p.2)
    ++ plan.seeds.map .role

/-- The object is not there. -/
def Absent (o : Object) (s : Server) : Prop :=
  match o with
  | .user name => name ∉ s.users
  | .collection n => s.collection? plan.database n = none
  | .index n i => (plan.view s n i.indexName).stored = none
  | .role r => (plan.roleDocuments s).filter r.fits = []

/-- The document of a collection has the code of no seed. -/
def foreign (n : String) (d : Fields) : Bool :=
  !(n == rolesCollection && plan.seeds.any fun r => r.fits d)

/-- But for declared indexes and documents of seeds, the collection is as it was. -/
structure SameCollection (n : String) (s t : Server) : Prop where
  present : plan.Holds t n ↔ plan.Holds s n
  indexes : ∀ name, (∀ i, (n, i) ∈ plan.spec.places → i.indexName ≠ name) →
    (plan.view t n name).stored = (plan.view s n name).stored
  documents : (t.documents plan.database n).filter (plan.foreign n) =
    (s.documents plan.database n).filter (plan.foreign n)

/-- The object is as it was. -/
def Same (o : Object) (s t : Server) : Prop :=
  match o with
  | .user name => name ∈ t.users ↔ name ∈ s.users
  | .collection n => plan.SameCollection n s t
  | .index n i =>
    (plan.view t n i.indexName).stored = (plan.view s n i.indexName).stored
  | .role r => (plan.roleDocuments t).filter r.fits = (plan.roleDocuments s).filter r.fits

/-- A stored document of the role, known by its identity, has another name, another description or other
permissions. -/
def Rewritten (o : Object) (s t : Server) : Prop :=
  match o with
  | .role r => ∃ d ∈ plan.roleDocuments s, ∃ e ∈ plan.roleDocuments t,
      r.fits d = true ∧ r.fits e = true ∧ e.lookup "_id" = d.lookup "_id" ∧
        ∃ field ∈ ["name", "description", "permissions"], e.lookup field ≠ d.lookup field
  | _ => False

variable {plan} {o : Object} {s s' t t' u : Server}

/-! ### The list of objects -/

theorem index_mem_objects {n : String} {i : IndexSpec} :
    .index n i ∈ plan.objects ↔ (n, i) ∈ plan.spec.places := by
  unfold objects
  split <;> simp

theorem role_mem_objects {r : RoleSeed} : .role r ∈ plan.objects ↔ r ∈ plan.seeds := by
  unfold objects
  split <;> simp

/-- A run deals with each object once, and with what is in the collections after the collections. -/
theorem objects_pairwise (hv : plan.spec.Valid) :
    plan.objects.Pairwise fun o o' => o ≠ o' ∧ (o.IsContent → o'.IsContent) := by
  have huser : (if plan.skipPrincipal then [] else [Object.user plan.spec.principal.name]).Pairwise
      fun o o' => o ≠ o' ∧ (o.IsContent → o'.IsContent) := by
    split
    · exact .nil
    · exact List.pairwise_singleton _ _
  have hcollections : (plan.spec.collectionNames.map Object.collection).Pairwise
      fun o o' => o ≠ o' ∧ (o.IsContent → o'.IsContent) :=
    List.pairwise_map.2 (hv.collectionNames.imp fun hne => ⟨by simpa using hne, False.elim⟩)
  have hindexes : (plan.spec.places.map fun p => Object.index p.1 p.2).Pairwise
      fun o o' => o ≠ o' ∧ (o.IsContent → o'.IsContent) :=
    List.pairwise_map.2 (hv.places_nodup.imp fun {p q} hne =>
      ⟨fun heq => hne (Prod.ext (Object.index.inj heq).1 (Object.index.inj heq).2), fun _ => trivial⟩)
  have hroles : (plan.seeds.map Object.role).Pairwise
      fun o o' => o ≠ o' ∧ (o.IsContent → o'.IsContent) :=
    List.pairwise_map.2 ((seeds_nodup hv).imp fun hne => ⟨by simpa using hne, fun _ => trivial⟩)
  refine List.pairwise_append.2 ⟨List.pairwise_append.2 ⟨List.pairwise_append.2 ⟨huser,
    hcollections, ?_⟩, hindexes, ?_⟩, hroles, ?_⟩
  -- objects of different kinds differ, and the kinds come in this order
  · intro o ho o' ho'
    obtain ⟨n, -, rfl⟩ := List.mem_map.1 ho'
    split at ho
    · cases ho
    · obtain rfl := List.mem_singleton.1 ho
      exact ⟨nofun, False.elim⟩
  · intro o ho o' ho'
    obtain ⟨p, -, rfl⟩ := List.mem_map.1 ho'
    refine ⟨?_, fun _ => trivial⟩
    rintro rfl
    split at ho <;> simp at ho
  · intro o ho o' ho'
    obtain ⟨r, -, rfl⟩ := List.mem_map.1 ho'
    refine ⟨?_, fun _ => trivial⟩
    rintro rfl
    split at ho <;> simp at ho

/-! ### Objects that are as they were -/

theorem same_refl : plan.Same o s s := by
  cases o with
  | user name => exact Iff.rfl
  | collection n => exact ⟨Iff.rfl, fun _ _ => rfl, rfl⟩
  | index n i => exact rfl
  | role r => exact rfl

theorem Same.trans (h : plan.Same o s t) (h' : plan.Same o t u) : plan.Same o s u := by
  cases o with
  | user name => exact Iff.trans h' h
  | collection n =>
    exact ⟨h'.present.trans h.present,
      fun name hname => (h'.indexes name hname).trans (h.indexes name hname),
      h'.documents.trans h.documents⟩
  | index n i => exact Eq.trans h' h
  | role r => exact Eq.trans h' h

theorem Same.absent_iff (h : plan.Same o s t) : plan.Absent o t ↔ plan.Absent o s := by
  cases o with
  | user name => exact not_congr h
  | collection n =>
    have hpresent := not_congr h.present
    simpa [Holds, Absent] using hpresent
  | index n i => exact Eq.congr_left h
  | role r => exact Eq.congr_left h

/-- Where the documents of a role are as they were, they are the same ones. -/
theorem Same.mem_iff {r : RoleSeed} (h : plan.Same (.role r) s t) {d : Fields}
    (hd : r.fits d = true) : d ∈ plan.roleDocuments t ↔ d ∈ plan.roleDocuments s := by
  have hmem : d ∈ (plan.roleDocuments t).filter r.fits ↔
      d ∈ (plan.roleDocuments s).filter r.fits := by rw [show _ = _ from h]
  simpa [hd] using hmem

theorem Rewritten.of_same (h : plan.Rewritten o s t) (hs : plan.Same o s' s)
    (ht : plan.Same o t t') : plan.Rewritten o s' t' := by
  cases o with
  | role r =>
    obtain ⟨d, hd, e, he, hdfits, hefits, hidentity, hfield⟩ := h
    exact ⟨d, (hs.mem_iff hdfits).1 hd, e, (ht.mem_iff hefits).2 he, hdfits, hefits, hidentity, hfield⟩
  | _ => exact h.elim

/-- Documents of one identity are one document, so none is rewritten where all are as they were. -/
theorem Same.not_rewritten (h : plan.Same o s t) (hid : Identified (plan.roleDocuments s)) :
    ¬ plan.Rewritten o s t := by
  cases o with
  | role r =>
    rintro ⟨d, hd, e, he, hdfits, hefits, hidentity, field, -, hne⟩
    have he := (h.mem_iff hefits).1 he
    obtain ⟨v, hv, hself⟩ := hid.identity d hd
    have hmatch : matchesFilter [("_id", v)] e = true :=
      matchesFilter_singleton.2 ⟨v, hidentity.trans hv, hself⟩
    obtain rfl := (hid.matches_iff hd he hv).1 hmatch
    exact hne rfl
  | _ => exact False.elim

/-- No document of a role that is not there is rewritten. -/
theorem Absent.not_rewritten (h : plan.Absent o s) : ¬ plan.Rewritten o s t := by
  cases o with
  | role r =>
    rintro ⟨d, hd, -, -, hfits, -⟩
    exact List.filter_eq_nil_iff.1 h d hd hfits
  | _ => exact False.elim

end Plan

end Bringup
