import Bringup.Provision
import Mathlib.Data.List.Pairwise

/-!
# Documents of a role

* `RoleSeed.fits` : a document has the code of the role;
* `RoleSeed.revised` : a stored document brought in line with the seed; it does not differ from it
  (`differs_revised`), keeps its other fields (`lookup_revised`), and only the second of two revisions
  counts (`revised_revised`);
* `Identified` : the documents of a collection can be told apart by their identities.
-/

namespace Bringup

/-- Looking for the value of one field. -/
theorem matchesFilter_singleton {field : String} {v : Value} {d : Fields} :
    matchesFilter [(field, v)] d = true ↔ ∃ w, d.lookup field = some w ∧ w.equal v = true := by
  simp only [matchesFilter, List.all_cons, List.all_nil, Bool.and_true]
  cases d.lookup field with
  | none => simp
  | some w => simp

namespace RoleSeed

variable {r q : RoleSeed} {d : Fields} {now : Instant}

/-- The document has the code of the role. -/
def fits (r : RoleSeed) : Fields → Bool := matchesFilter (Plan.codeFilter r)

/-- The stored document with the fields that the seed owns, and with a new time of its last change. -/
def revised (r : RoleSeed) (now : Instant) (d : Fields) : Fields :=
  Assoc.putAll (r.content ++ [("updated_at", .date now)]) d

theorem fits_iff : r.fits d = true ↔ d.lookup "code" = some (.str r.code) := by
  rw [fits, Plan.codeFilter, matchesFilter_singleton]
  constructor
  · rintro ⟨w, hw, he⟩
    rw [hw, Value.equal_str_iff.1 he]
  · intro h
    exact ⟨_, h, Value.equal_str_iff.2 rfl⟩

/-- A document has one code. -/
theorem code_eq_of_fits (hr : r.fits d = true) (hq : q.fits d = true) : r.code = q.code := by
  rw [fits_iff] at hr hq
  simpa using hr.symm.trans hq

/-- A stored document is as the seed has it when it has the three fields of the seed. -/
theorem differs_eq_false_iff : r.differs d = false ↔ d.lookup "name" = some (.str r.name) ∧
    d.lookup "description" = some (.str r.description) ∧
    d.lookup "permissions" = some (.texts r.permissions) := by
  have text : ∀ field s, ((d.lookup field).getD .null).equal (.str s) = true ↔
      d.lookup field = some (.str s) := by
    intro field s
    rw [Value.equal_str_iff]
    cases d.lookup field <;> simp
  have texts : ∀ field ss, ((d.lookup field).getD .null).equal (.texts ss) = true ↔
      d.lookup field = some (.texts ss) := by
    intro field ss
    rw [Value.equal_texts_iff]
    cases d.lookup field <;> simp [Value.texts]
  simp only [differs, content, List.any_cons, List.any_nil, Bool.or_false, Bool.or_eq_false_iff,
    Bool.not_eq_false', text, texts]

/-- A revision of fields with the values that they have does nothing but set the time. -/
theorem revised_of_not_differs (h : r.differs d = false) :
    r.revised now d = Assoc.put "updated_at" (.date now) d := by
  obtain ⟨hname, hdescription, hpermissions⟩ := differs_eq_false_iff.1 h
  change Assoc.put "updated_at" _ (Assoc.put "permissions" _ (Assoc.put "description" _
    (Assoc.put "name" _ d))) = _
  rw [Assoc.put_of_lookup hname, Assoc.put_of_lookup hdescription, Assoc.put_of_lookup hpermissions]

/-- Other fields keep their values in a revision. -/
theorem lookup_revised {field : String} (hname : field ≠ "name")
    (hdescription : field ≠ "description") (hpermissions : field ≠ "permissions")
    (hupdated : field ≠ "updated_at") : (r.revised now d).lookup field = d.lookup field := by
  change (Assoc.put "updated_at" _ (Assoc.put "permissions" _ (Assoc.put "description" _
    (Assoc.put "name" _ d)))).lookup field = _
  rw [Assoc.lookup_put_of_ne hupdated, Assoc.lookup_put_of_ne hpermissions,
    Assoc.lookup_put_of_ne hdescription, Assoc.lookup_put_of_ne hname]

theorem differs_revised : r.differs (r.revised now d) = false := by
  rw [differs_eq_false_iff]
  simp [revised, content, Assoc.putAll, Assoc.lookup_put]

theorem revised_revised {later : Instant} :
    r.revised later (r.revised now d) = r.revised later d := by
  rw [revised_of_not_differs differs_revised]
  simp only [revised, Assoc.putAll_append]
  exact Assoc.put_put_self

/-- What is inserted for a role has its code only, and is as the seed has it. -/
theorem fits_inserted {identity : Value} :
    q.fits (("_id", identity) :: r.document now) = true ↔ r.code = q.code := by
  rw [fits_iff]
  simp [document, List.lookup_cons]

theorem differs_inserted {identity : Value} :
    r.differs (("_id", identity) :: r.document now) = false := by
  rw [differs_eq_false_iff]
  simp [document, content, List.lookup_cons]

end RoleSeed

/-! ### Identities -/

/-- The identities of two documents are not equal, whichever of them is looked for. -/
def Apart (d e : Fields) : Prop :=
  ∀ v w, d.lookup "_id" = some v → e.lookup "_id" = some w → v.equal w = false ∧ w.equal v = false

instance : Std.Symm Apart where
  symm _ _ h v w hv hw := (h w v hw hv).symm

instance (d e : Fields) : Decidable (Apart d e) :=
  match hd : d.lookup "_id", he : e.lookup "_id" with
  | some v, some w =>
    decidable_of_iff (v.equal w = false ∧ w.equal v = false)
      ⟨fun h v' w' hv' hw' => by
        obtain rfl : v = v' := by simpa [hd] using hv'
        obtain rfl : w = w' := by simpa [he] using hw'
        exact h, fun h => h v w hd he⟩
  | none, _ => isTrue fun v w hv _ => by simp [hd] at hv
  | some _, none => isTrue fun v w _ hw => by simp [he] at hw

/-- The documents have identities, each equal to itself and no two equal to each other.  A number that is
not one is not equal to itself, and finds nothing. -/
structure Identified (documents : List Fields) : Prop where
  identity : ∀ d ∈ documents, ∃ v, d.lookup "_id" = some v ∧ v.equal v = true
  apart : documents.Pairwise Apart

instance (documents : List Fields) : Decidable (Identified documents) :=
  decidable_of_iff ((∀ d ∈ documents, ((d.lookup "_id").any fun v => v.equal v) = true) ∧
      documents.Pairwise Apart)
    ⟨fun h => ⟨fun d hd => by simpa [Option.any_eq_true] using h.1 d hd, h.2⟩,
      fun h => ⟨fun d hd => by simpa [Option.any_eq_true] using h.identity d hd, h.apart⟩⟩

namespace Identified

variable {documents : List Fields}

/-- Documents with identities come once. -/
theorem nodup (h : Identified documents) : documents.Nodup := by
  refine h.apart.imp_of_mem fun {d e} hd _ hde heq => ?_
  subst heq
  obtain ⟨v, hv, hself⟩ := h.identity d hd
  simp [(hde v v hv hv).1] at hself

/-- An identity finds its document and no other. -/
theorem matches_iff (h : Identified documents) {d e : Fields} {v : Value} (hd : d ∈ documents)
    (he : e ∈ documents) (hv : d.lookup "_id" = some v) :
    matchesFilter [("_id", v)] e = true ↔ e = d := by
  rw [matchesFilter_singleton]
  constructor
  · rintro ⟨w, hw, hwv⟩
    by_contra hne
    simp [(h.apart.forall he hd hne w v hw hv).1] at hwv
  · rintro rfl
    obtain ⟨w, hw, hself⟩ := h.identity e he
    obtain rfl : v = w := by simpa [hv] using hw
    exact ⟨v, hv, hself⟩

end Identified

end Bringup
