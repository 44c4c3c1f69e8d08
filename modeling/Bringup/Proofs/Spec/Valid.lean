import Bringup.Spec.Seed
import Mathlib.Data.List.Nodup

/-!
# Valid seed specifications

* `SeedSpec.Valid` : what the parts of a specification promise each other: names that must not be empty
  are not, fields and permissions are not blank, nothing that is found by its name is declared twice,
  and roles come with the collection that holds them;
* `SeedSpec.places` : the declared indexes in the order in which they are looked at, each with its
  collection; in a valid specification collection and name determine the index
  (`SeedSpec.Valid.index_unique`).
-/

namespace Bringup

/-- The keys of an index are there, each field comes once, and none is blank. -/
structure IndexSpec.Valid (index : IndexSpec) : Prop where
  keys : index.keys ≠ []
  fields : ∀ key ∈ index.keys, isBlankText key.1 = false
  distinct : (index.keys.map Prod.fst).Nodup

/-- A collection has a name, and its indexes have names of their own. -/
structure CollectionSpec.Valid (c : CollectionSpec) : Prop where
  name : c.name ≠ ""
  indexes : ∀ index ∈ c.indexes, index.Valid
  distinct : (c.indexes.map IndexSpec.indexName).Nodup

/-- A user has a name, a role and a database; the secret may be empty. -/
structure PrincipalSpec.Valid (p : PrincipalSpec) : Prop where
  name : p.name ≠ ""
  role : p.role ≠ ""
  grantDatabase : p.grantDatabase ≠ ""

/-- A role has a code and a name; its permissions are not blank and come once each. -/
structure RoleSeed.Valid (r : RoleSeed) : Prop where
  code : r.code ≠ ""
  name : r.name ≠ ""
  permissions : ∀ p ∈ r.permissions, isBlankText p = false
  distinct : r.permissions.Nodup

/-- The parts of a specification are valid and go together. -/
structure SeedSpec.Valid (spec : SeedSpec) : Prop where
  database : spec.database ≠ ""
  principal : spec.principal.Valid
  collections : ∀ c ∈ spec.collections, c.Valid
  collectionNames : spec.collectionNames.Nodup
  roles : ∀ r ∈ spec.roles, r.Valid
  roleCodes : (spec.roles.map RoleSeed.code).Nodup
  rolesDeclared : spec.roles ≠ [] → rolesCollection ∈ spec.collectionNames

/-! ### Validity can be decided -/

instance (index : IndexSpec) : Decidable index.Valid :=
  decidable_of_iff (index.keys ≠ [] ∧ (∀ key ∈ index.keys, isBlankText key.1 = false) ∧
    (index.keys.map Prod.fst).Nodup)
    ⟨fun ⟨h₁, h₂, h₃⟩ => ⟨h₁, h₂, h₃⟩, fun ⟨h₁, h₂, h₃⟩ => ⟨h₁, h₂, h₃⟩⟩

instance (c : CollectionSpec) : Decidable c.Valid :=
  decidable_of_iff (c.name ≠ "" ∧ (∀ index ∈ c.indexes, index.Valid) ∧
    (c.indexes.map IndexSpec.indexName).Nodup)
    ⟨fun ⟨h₁, h₂, h₃⟩ => ⟨h₁, h₂, h₃⟩, fun ⟨h₁, h₂, h₃⟩ => ⟨h₁, h₂, h₃⟩⟩

instance (p : PrincipalSpec) : Decidable p.Valid :=
  decidable_of_iff (p.name ≠ "" ∧ p.role ≠ "" ∧ p.grantDatabase ≠ "")
    ⟨fun ⟨h₁, h₂, h₃⟩ => ⟨h₁, h₂, h₃⟩, fun ⟨h₁, h₂, h₃⟩ => ⟨h₁, h₂, h₃⟩⟩

instance (r : RoleSeed) : Decidable r.Valid :=
  decidable_of_iff (r.code ≠ "" ∧ r.name ≠ "" ∧ (∀ p ∈ r.permissions, isBlankText p = false) ∧
    r.permissions.Nodup)
    ⟨fun ⟨h₁, h₂, h₃, h₄⟩ => ⟨h₁, h₂, h₃, h₄⟩, fun ⟨h₁, h₂, h₃, h₄⟩ => ⟨h₁, h₂, h₃, h₄⟩⟩

instance (spec : SeedSpec) : Decidable spec.Valid :=
  decidable_of_iff (spec.database ≠ "" ∧ spec.principal.Valid ∧
    (∀ c ∈ spec.collections, c.Valid) ∧ spec.collectionNames.Nodup ∧ (∀ r ∈ spec.roles, r.Valid) ∧
    (spec.roles.map RoleSeed.code).Nodup ∧
    (spec.roles ≠ [] → rolesCollection ∈ spec.collectionNames))
    ⟨fun ⟨h₁, h₂, h₃, h₄, h₅, h₆, h₇⟩ => ⟨h₁, h₂, h₃, h₄, h₅, h₆, h₇⟩,
      fun ⟨h₁, h₂, h₃, h₄, h₅, h₆, h₇⟩ => ⟨h₁, h₂, h₃, h₄, h₅, h₆, h₇⟩⟩

/-! ### Declared indexes -/

namespace SeedSpec

variable {spec : SeedSpec}

/-- The declared indexes in their order, each with its collection. -/
def places (spec : SeedSpec) : List (String × IndexSpec) :=
  spec.collections.flatMap fun c => c.indexes.map fun index => (c.name, index)

theorem mem_places {name : String} {index : IndexSpec} :
    (name, index) ∈ spec.places ↔ ∃ c ∈ spec.collections, c.name = name ∧ index ∈ c.indexes := by
  simp only [places, List.mem_flatMap, List.mem_map, Prod.mk.injEq]
  constructor
  · rintro ⟨c, hc, i, hi, rfl, rfl⟩
    exact ⟨c, hc, rfl, hi⟩
  · rintro ⟨c, hc, rfl, hi⟩
    exact ⟨c, hc, index, hi, rfl, rfl⟩

/-- The declared indexes before one of them: those of the collections before its collection, and those
before it in its collection. -/
theorem places_eq_of_split {before after : List CollectionSpec} {c : CollectionSpec}
    {done rest : List IndexSpec} {i : IndexSpec} (hc : spec.collections = before ++ c :: after)
    (hi : c.indexes = done ++ i :: rest) :
    ∃ later, spec.places = (before.flatMap fun d => d.indexes.map fun j => (d.name, j)) ++
      (done.map fun j => (c.name, j)) ++ (c.name, i) :: later := by
  rw [places, hc, List.flatMap_append, List.flatMap_cons, hi, List.map_append, List.map_cons]
  exact ⟨_, by rw [List.append_assoc, List.append_assoc, List.cons_append]⟩

theorem mem_collectionNames_of_mem_places {p : String × IndexSpec} (h : p ∈ spec.places) :
    p.1 ∈ spec.collectionNames := by
  obtain ⟨c, hc, hname, -⟩ := mem_places.1 (show (p.1, p.2) ∈ spec.places from h)
  exact hname ▸ List.mem_map_of_mem hc

/-- A collection and a name belong to one declared index at most. -/
theorem Valid.index_unique (hv : spec.Valid) {name : String} {i j : IndexSpec}
    (hi : (name, i) ∈ spec.places) (hj : (name, j) ∈ spec.places)
    (hij : i.indexName = j.indexName) : i = j := by
  obtain ⟨c, hc, hcn, hi⟩ := mem_places.1 hi
  obtain ⟨d, hd, hdn, hj⟩ := mem_places.1 hj
  obtain rfl : c = d := List.inj_on_of_nodup_map hv.collectionNames hc hd (hcn.trans hdn.symm)
  exact List.inj_on_of_nodup_map (hv.collections c hc).distinct hi hj hij

/-- No index is declared twice. -/
theorem Valid.places_nodup (hv : spec.Valid) : spec.places.Nodup := by
  rw [places, List.nodup_flatMap]
  refine ⟨fun c hc => ?_, ?_⟩
  · exact (hv.collections c hc).distinct.of_map.map fun i j h => (Prod.mk.inj h).2
  · refine (List.pairwise_map.1 hv.collectionNames).imp fun {c d} hcd p hp hq => hcd ?_
    obtain ⟨i, -, rfl⟩ := List.mem_map.1 hp
    obtain ⟨j, -, heq⟩ := List.mem_map.1 hq
    exact (Prod.mk.inj heq).1.symm

/-- A code belongs to one declared role at most. -/
theorem Valid.role_unique (hv : spec.Valid) {r q : RoleSeed} (hr : r ∈ spec.roles)
    (hq : q ∈ spec.roles) (h : r.code = q.code) : r = q :=
  List.inj_on_of_nodup_map hv.roleCodes hr hq h

end SeedSpec

end Bringup
