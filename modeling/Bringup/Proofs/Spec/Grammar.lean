import Bringup.Proofs.Check.Spelling
import Bringup.Proofs.Spec.Valid

/-!
# The grammar of seed specifications

* `IndexSpec.SpelledBy`, `CollectionSpec.SpelledBy`, `PrincipalSpec.SpelledBy`, `RoleSeed.SpelledBy`,
  `SeedSpec.SpelledBy` : a value has the fields of a declaration, each with a value that spells it, and what
  may be left out stands for a default;
* `SeedSpec.decides_check` : the check of a specification decides whether the value spells a valid one;
* `SeedSpec.valid_of_builtIn` : the built-in layout is valid;
* `SeedSpec.load_spelled_valid` : what is loaded is the valid specification that the value spells, and all
  other values are refused with a list of problems.

A declaration is spelled in the order in which it stands in the value.  Only permissions are not taken as they
are: they lose their later repetitions.
-/

namespace Bringup

open Spells (Required Optional Items)

/-! ### Declarations and the values that spell them -/

/-- A key of an index: a field, and the number of a direction. -/
def IndexSpec.KeySpelledBy (v : Value) (key : String × Direction) : Prop :=
  Spells.Pair Spells.Text Spells.Integer v (key.1, key.2.number)

/-- An index: its keys; no flag is set unless it is given, and there need be no name. -/
def IndexSpec.SpelledBy (v : Value) (index : IndexSpec) : Prop :=
  Spells.Object (fun fields =>
    Required "keys" fields (Items KeySpelledBy · index.keys) ∧
      Optional "unique" fields (index.unique = false) (Spells.Truth · index.unique) ∧
      Optional "sparse" fields (index.sparse = false) (Spells.Truth · index.sparse) ∧
      Optional "name" fields (index.name = none) (Spells.OrNull Spells.Text · index.name)) v

/-- A collection: its name, and its indexes, if it has any. -/
def CollectionSpec.SpelledBy (v : Value) (c : CollectionSpec) : Prop :=
  Spells.Object (fun fields =>
    Required "name" fields (Spells.Text · c.name) ∧
      Optional "indexes" fields (c.indexes = []) (Items IndexSpec.SpelledBy · c.indexes)) v

/-- A user: its name, its secret, the database and the role on it, which is to read and write unless another
one is given. -/
def PrincipalSpec.SpelledBy (v : Value) (p : PrincipalSpec) : Prop :=
  Spells.Object (fun fields =>
    Required "name" fields (Spells.Text · p.name) ∧
      Required "secret" fields (Spells.Text · p.secret) ∧
      Optional "role" fields (p.role = "readWrite") (Spells.Text · p.role) ∧
      Required "grant_db" fields (Spells.Text · p.grantDatabase)) v

/-- Permissions are those of a list of texts without later repetitions. -/
def RoleSeed.PermissionsSpelledBy (v : Value) (permissions : List String) : Prop :=
  ∃ raw : List String, Items Spells.Text v raw ∧ permissions = raw.eraseDups

/-- A role: its code, its name, and perhaps a description and permissions. -/
def RoleSeed.SpelledBy (v : Value) (r : RoleSeed) : Prop :=
  Spells.Object (fun fields =>
    Required "code" fields (Spells.Text · r.code) ∧
      Required "name" fields (Spells.Text · r.name) ∧
      Optional "description" fields (r.description = "") (Spells.Text · r.description) ∧
      Optional "permissions" fields (r.permissions = []) (PermissionsSpelledBy · r.permissions)) v

/-- A specification: the database, the user, and perhaps collections and roles. -/
def SeedSpec.SpelledBy (v : Value) (spec : SeedSpec) : Prop :=
  Spells.Object (fun fields =>
    Required "database" fields (Spells.Text · spec.database) ∧
      Required "principal" fields (PrincipalSpec.SpelledBy · spec.principal) ∧
      Optional "collections" fields (spec.collections = [])
        (Items CollectionSpec.SpelledBy · spec.collections) ∧
      Optional "roles" fields (spec.roles = []) (Items RoleSeed.SpelledBy · spec.roles)) v

/-! ### Indexes -/

/-- A direction is read from its number, and from no other. -/
theorem Direction.ofNumber?_eq_some_iff {n : Int} {d : Direction} :
    ofNumber? n = some d ↔ d.number = n := by
  constructor
  · intro h
    unfold ofNumber? at h
    split at h
    · rename_i hn
      obtain rfl := Option.some.inj h
      exact hn.symm
    split at h
    · rename_i hn
      obtain rfl := Option.some.inj h
      exact hn.symm
    · cases h
  · rintro rfl
    exact ofNumber?_number d

namespace IndexSpec

/-- Fields that are not blank, that differ from each other and from those before them. -/
structure FreshFields (seen fields : List String) : Prop where
  filled : ∀ field ∈ fields, isBlankText field = false
  distinct : fields.Nodup
  fresh : ∀ field ∈ fields, field ∉ seen

variable {seen : List String}

theorem freshFields_cons {field : String} {fields : List String} :
    FreshFields seen (field :: fields) ↔
      isBlankText field = false ∧ field ∉ seen ∧ FreshFields (field :: seen) fields := by
  constructor
  · rintro ⟨hfilled, hdistinct, hfresh⟩
    obtain ⟨hnotin, hdistinct⟩ := List.nodup_cons.1 hdistinct
    refine ⟨hfilled _ (.head _), hfresh _ (.head _), fun f hf => hfilled f (.tail _ hf), hdistinct,
      fun f hf hmem => ?_⟩
    rcases List.mem_cons.1 hmem with rfl | hmem
    · exact hnotin hf
    · exact hfresh f (.tail _ hf) hmem
  · rintro ⟨hblank, hseen, hfilled, hdistinct, hfresh⟩
    refine ⟨List.forall_mem_cons.2 ⟨hblank, hfilled⟩,
      List.nodup_cons.2 ⟨fun hmem => hfresh field hmem (.head _), hdistinct⟩,
      List.forall_mem_cons.2 ⟨hseen, fun f hf hmem => hfresh f hf (.tail _ hmem)⟩⟩

/-- A key with the number of its direction. -/
def numbered (key : String × Direction) : String × Int := (key.1, key.2.number)

/-- Keys that are read from pairs begin with the first field and a direction of its number. -/
theorem freshKeys_cons_iff {seen : List String} {field : String} {n : Int} {rest : List (String × Int)}
    {keys : List (String × Direction)} :
    keys.map numbered = (field, n) :: rest ∧ FreshFields seen (keys.map Prod.fst) ↔
      isBlankText field = false ∧ field ∉ seen ∧ ∃ d, d.number = n ∧ ∃ keys',
        (keys'.map numbered = rest ∧ FreshFields (field :: seen) (keys'.map Prod.fst)) ∧
          (field, d) :: keys' = keys := by
  constructor
  · rintro ⟨heq, hfresh⟩
    obtain ⟨⟨f, d⟩, keys', rfl, hkey, hrest⟩ := List.map_eq_cons_iff.1 heq
    obtain ⟨rfl, hn⟩ := Prod.mk.inj hkey
    obtain ⟨hblank, hseen, hfresh⟩ := freshFields_cons.1 hfresh
    exact ⟨hblank, hseen, d, hn, keys', ⟨hrest, hfresh⟩, rfl⟩
  · rintro ⟨hblank, hseen, d, rfl, keys', ⟨rfl, hfresh⟩, rfl⟩
    exact ⟨rfl, freshFields_cons.2 ⟨hblank, hseen, hfresh⟩⟩

/-- The keys are read one after the other; `seen` are the fields before them. -/
theorem decides_checkKeys (seen : List String) (pairs : List (String × Int)) :
    (checkKeys seen pairs).Decides fun keys =>
      keys.map numbered = pairs ∧ FreshFields seen (keys.map Prod.fst) := by
  induction pairs generalizing seen with
  | nil =>
    refine (Checked.decides_valid []).congr fun keys => ⟨?_, fun h => List.map_eq_nil_iff.1 h.1⟩
    rintro rfl
    exact ⟨rfl, nofun, .nil, nofun⟩
  | cons pair rest ih =>
    obtain ⟨field, n⟩ := pair
    refine Checked.Decides.congr ?_ fun keys => freshKeys_cons_iff.symm
    rw [checkKeys]
    -- each test that fails denies one part of what `freshKeys_cons_iff` asks of the first key
    by_cases hblank : isBlankText field = true
    · rw [if_pos hblank]
      refine Checked.decides_problem fun keys h => ?_
      rw [h.1] at hblank
      cases hblank
    rw [if_neg hblank]
    by_cases hseen : field ∈ seen
    · rw [if_pos hseen]
      exact Checked.decides_problem fun keys h => h.2.1 hseen
    rw [if_neg hseen]
    cases hd : Direction.ofNumber? n with
    | none =>
      refine Checked.decides_problem fun keys h => ?_
      obtain ⟨-, -, d, hn, -⟩ := h
      rw [Direction.ofNumber?_eq_some_iff.2 hn] at hd
      cases hd
    | some d =>
      refine ((ih (field :: seen)).map _).congr fun keys => ?_
      constructor
      · intro h
        exact ⟨by simpa using hblank, hseen, d, Direction.ofNumber?_eq_some_iff.1 hd, h⟩
      · rintro ⟨-, -, d', hn, h⟩
        obtain rfl : d' = d :=
          Option.some.inj ((Direction.ofNumber?_eq_some_iff.2 hn).symm.trans hd)
        exact h

theorem items_keySpelledBy_iff {v : Value} {keys : List (String × Direction)} :
    Items KeySpelledBy v keys ↔
      Items (Spells.Pair Spells.Text Spells.Integer) v (keys.map numbered) := by
  simp only [Items, List.forall₂_map_right_iff]
  exact Iff.rfl

/-- The keys of an index: there are some, each field comes once, and none is blank. -/
theorem decides_keysOf (v : Value) : (keysOf v).Decides fun keys =>
    Items KeySpelledBy v keys ∧ keys ≠ [] ∧ FreshFields [] (keys.map Prod.fst) := by
  refine ((Check.decides_list (Check.decides_pair Check.decides_text Check.decides_integer) v).bind
    (R := fun pairs keys => keys.map numbered = pairs ∧ pairs ≠ [] ∧
      FreshFields [] (keys.map Prod.fst)) fun pairs _ => ?_).congr fun keys => ?_
  · cases pairs with
    | nil => exact Checked.decides_problem fun keys h => h.2.1 rfl
    | cons pair rest =>
      refine (decides_checkKeys [] (pair :: rest)).congr fun keys => ?_
      simp only [ne_eq, reduceCtorEq, not_false_eq_true, true_and]
  · rw [items_keySpelledBy_iff]
    constructor
    · rintro ⟨_, hpairs, rfl, hne, hfresh⟩
      exact ⟨hpairs, fun heq => hne (heq ▸ rfl), hfresh⟩
    · rintro ⟨hpairs, hne, hfresh⟩
      exact ⟨_, hpairs, rfl, fun heq => hne (List.map_eq_nil_iff.1 heq), hfresh⟩

theorem valid_iff {index : IndexSpec} :
    index.Valid ↔ index.keys ≠ [] ∧ FreshFields [] (index.keys.map Prod.fst) := by
  constructor
  · rintro ⟨hkeys, hfields, hdistinct⟩
    exact ⟨hkeys, List.forall_mem_map.2 hfields, hdistinct, nofun⟩
  · rintro ⟨hkeys, hfields, hdistinct, -⟩
    exact ⟨hkeys, List.forall_mem_map.1 hfields, hdistinct⟩

theorem decides_check (v : Value) :
    (check v).Decides fun index => SpelledBy v index ∧ index.Valid := by
  refine (Check.decides_model (fun fields => Checked.decides_record₄
    (Check.decides_required decides_keysOf "keys" fields)
    (Check.decides_optional Check.decides_truth "unique" false fields)
    (Check.decides_optional Check.decides_truth "sparse" false fields)
    (Check.decides_optional (Check.decides_orNull Check.decides_text) "name" none fields) mk) v).congr
    fun index => ?_
  constructor
  · rintro ⟨fields, rfl, keys, unique, sparse, name, hkeys, hunique, hsparse, hname, rfl⟩
    obtain ⟨hkeys, hvalid⟩ := Spells.required_and.1 hkeys
    exact ⟨⟨fields, rfl, hkeys, hunique, hsparse, hname⟩, valid_iff.2 hvalid⟩
  · rintro ⟨⟨fields, rfl, hkeys, hunique, hsparse, hname⟩, hvalid⟩
    exact ⟨fields, rfl, _, _, _, _,
      Spells.required_and.2 ⟨hkeys, valid_iff.1 hvalid⟩, hunique, hsparse, hname, rfl⟩

end IndexSpec

/-! ### Collections -/

namespace CollectionSpec

/-- No text comes more than once just when they are distinct. -/
theorem repeated_eq_nil_iff {texts : List String} : repeated texts = [] ↔ texts.Nodup := by
  have hcount : (∀ s ∈ texts, ¬1 < texts.count s) ↔ texts.Nodup := by
    rw [List.nodup_iff_count_le_one]
    exact ⟨fun h s => by
      by_cases hs : s ∈ texts
      · exact Nat.not_lt.1 (h s hs)
      · rw [List.count_eq_zero_of_not_mem hs]
        exact Nat.zero_le 1, fun h s _ => Nat.not_lt.2 (h s)⟩
  rw [← hcount, List.eq_nil_iff_forall_not_mem]
  simp only [repeated, (sortTexts_perm _).mem_iff, List.mem_eraseDups, List.mem_filter,
    decide_eq_true_eq, not_and]

theorem sharedNames?_eq_none_iff {c : CollectionSpec} :
    c.sharedNames? = none ↔ (c.indexes.map IndexSpec.indexName).Nodup := by
  rw [← repeated_eq_nil_iff, ← List.isEmpty_iff, sharedNames?]
  by_cases h : (repeated (c.indexes.map IndexSpec.indexName)).isEmpty = true
  · rw [if_pos h]
    exact ⟨fun _ => h, fun _ => rfl⟩
  · rw [if_neg h]
    exact ⟨nofun, fun h' => absurd h' h⟩

theorem decides_check (v : Value) : (check v).Decides fun c => SpelledBy v c ∧ c.Valid := by
  refine (Check.decides_model (fun fields => (Checked.decides_record₂
    (Check.decides_required Check.decides_filledText "name" fields)
    (Check.decides_optional (Check.decides_list IndexSpec.decides_check) "indexes" [] fields)
    mk).refine fun c _ => sharedNames?_eq_none_iff) v).congr fun c => ?_
  constructor
  · rintro ⟨fields, rfl, ⟨name, indexes, hname, hindexes, rfl⟩, hdistinct⟩
    obtain ⟨hname, hfilled⟩ := Spells.required_and.1 hname
    simp only [Spells.items_and] at hindexes
    obtain ⟨hindexes, hvalid⟩ := (Spells.optional_and (by rintro rfl; exact nofun)).1 hindexes
    exact ⟨⟨fields, rfl, hname, hindexes⟩, hfilled, hvalid, hdistinct⟩
  · rintro ⟨⟨fields, rfl, hname, hindexes⟩, hvalid⟩
    refine ⟨fields, rfl, ⟨_, _, Spells.required_and.2 ⟨hname, hvalid.name⟩, ?_, rfl⟩, hvalid.distinct⟩
    simp only [Spells.items_and]
    exact (Spells.optional_and (fun h => by rw [h]; exact nofun)).2 ⟨hindexes, hvalid.indexes⟩

end CollectionSpec

/-! ### Users -/

theorem PrincipalSpec.decides_check (v : Value) :
    (check v).Decides fun p => SpelledBy v p ∧ p.Valid := by
  refine (Check.decides_model (fun fields => Checked.decides_record₄
    (Check.decides_required Check.decides_filledText "name" fields)
    (Check.decides_required Check.decides_text "secret" fields)
    (Check.decides_optional Check.decides_filledText "role" "readWrite" fields)
    (Check.decides_required Check.decides_filledText "grant_db" fields) mk) v).congr fun p => ?_
  constructor
  · rintro ⟨fields, rfl, name, secret, role, grantDatabase, hname, hsecret, hrole, hgrant, rfl⟩
    obtain ⟨hname, hnameFilled⟩ := Spells.required_and.1 hname
    obtain ⟨hrole, hroleFilled⟩ := (Spells.optional_and (by rintro rfl; decide)).1 hrole
    obtain ⟨hgrant, hgrantFilled⟩ := Spells.required_and.1 hgrant
    exact ⟨⟨fields, rfl, hname, hsecret, hrole, hgrant⟩, hnameFilled, hroleFilled, hgrantFilled⟩
  · rintro ⟨⟨fields, rfl, hname, hsecret, hrole, hgrant⟩, hvalid⟩
    exact ⟨fields, rfl, _, _, _, _, Spells.required_and.2 ⟨hname, hvalid.name⟩, hsecret,
      (Spells.optional_and fun _ => hvalid.role).2 ⟨hrole, hvalid.role⟩,
      Spells.required_and.2 ⟨hgrant, hvalid.grantDatabase⟩, rfl⟩

/-! ### Roles -/

namespace RoleSeed

/-- What is left of the texts comes once each. -/
theorem nodup_eraseDups : ∀ texts : List String, texts.eraseDups.Nodup
  | [] => .nil
  | s :: rest => by
    have hshorter : (rest.filter fun t => !t == s).length < rest.length + 1 :=
      Nat.lt_succ_of_le (List.length_filter_le _ _)
    rw [List.eraseDups_cons, List.nodup_cons, List.mem_eraseDups, List.mem_filter]
    exact ⟨by simp, nodup_eraseDups _⟩
termination_by texts => texts.length

/-- The permissions are read one after the other; those before them are left out. -/
theorem decides_distinctFrom (seen permissions : List String) :
    (distinctFrom seen permissions).Decides fun distinct =>
      distinct = (permissions.filter (· ∉ seen)).eraseDups ∧
        ∀ p ∈ permissions, isBlankText p = false := by
  induction permissions generalizing seen with
  | nil =>
    refine (Checked.decides_valid []).congr fun distinct => ?_
    simp
  | cons p rest ih =>
    rw [distinctFrom]
    by_cases hblank : isBlankText p = true
    · rw [if_pos hblank]
      refine Checked.decides_problem fun distinct h => ?_
      rw [h.2 p (.head _)] at hblank
      cases hblank
    rw [if_neg hblank]
    have hfilled : (∀ q ∈ p :: rest, isBlankText q = false) ↔ ∀ q ∈ rest, isBlankText q = false := by
      rw [List.forall_mem_cons]
      exact and_iff_right (by simpa using hblank)
    rw [hfilled]
    -- the first occurrence stays, and takes the later ones out of the rest
    by_cases hseen : p ∈ seen
    · rw [if_pos hseen, List.filter_cons_of_neg (by simpa using hseen)]
      exact ih seen
    · rw [if_neg hseen, List.filter_cons_of_pos (by simpa using hseen), List.eraseDups_cons,
        List.filter_filter]
      refine ((ih (p :: seen)).map _).congr fun distinct => ?_
      have hfilter : rest.filter (fun q => !q == p && decide (q ∉ seen)) =
          rest.filter (· ∉ p :: seen) := by
        refine List.filter_congr fun q _ => ?_
        rw [Bool.eq_iff_iff]
        simp
      rw [hfilter]
      constructor
      · rintro ⟨_, ⟨rfl, hrest⟩, rfl⟩
        exact ⟨rfl, hrest⟩
      · rintro ⟨rfl, hrest⟩
        exact ⟨_, ⟨rfl, hrest⟩, rfl⟩

/-- The permissions of a role: none is blank, and they come once each. -/
theorem decides_permissions (v : Value) :
    ((Check.list Check.text v).bind distinctPermissions).Decides fun permissions =>
      PermissionsSpelledBy v permissions ∧ ∀ p ∈ permissions, isBlankText p = false := by
  refine ((Check.decides_list Check.decides_text v).bind fun raw _ =>
    decides_distinctFrom [] raw).congr fun permissions => ?_
  have hall : ∀ raw : List String, raw.filter (· ∉ ([] : List String)) = raw := fun raw => by simp
  simp only [hall]
  constructor
  · rintro ⟨raw, hraw, rfl, hfilled⟩
    exact ⟨⟨raw, hraw, rfl⟩, fun p hp => hfilled p (List.mem_eraseDups.1 hp)⟩
  · rintro ⟨⟨raw, hraw, rfl⟩, hfilled⟩
    exact ⟨raw, hraw, rfl, fun p hp => hfilled p (List.mem_eraseDups.2 hp)⟩

theorem decides_check (v : Value) : (check v).Decides fun r => SpelledBy v r ∧ r.Valid := by
  refine (Check.decides_model (fun fields => Checked.decides_record₄
    (Check.decides_required Check.decides_filledText "code" fields)
    (Check.decides_required Check.decides_filledText "name" fields)
    (Check.decides_optional Check.decides_text "description" "" fields)
    (Check.decides_optional decides_permissions "permissions" [] fields) mk) v).congr fun r => ?_
  constructor
  · rintro ⟨fields, rfl, code, name, description, permissions, hcode, hname, hdescription, hperms, rfl⟩
    obtain ⟨hcode, hcodeFilled⟩ := Spells.required_and.1 hcode
    obtain ⟨hname, hnameFilled⟩ := Spells.required_and.1 hname
    obtain ⟨hperms, hfilled⟩ := (Spells.optional_and (by rintro rfl; exact nofun)).1 hperms
    refine ⟨⟨fields, rfl, hcode, hname, hdescription, hperms⟩, hcodeFilled, hnameFilled, hfilled, ?_⟩
    unfold Spells.Optional at hperms
    split at hperms
    · obtain ⟨raw, -, rfl⟩ := hperms
      exact nodup_eraseDups raw
    · rw [hperms]
      exact .nil
  · rintro ⟨⟨fields, rfl, hcode, hname, hdescription, hperms⟩, hvalid⟩
    exact ⟨fields, rfl, _, _, _, _, Spells.required_and.2 ⟨hcode, hvalid.code⟩,
      Spells.required_and.2 ⟨hname, hvalid.name⟩, hdescription,
      (Spells.optional_and fun _ => hvalid.permissions).2 ⟨hperms, hvalid.permissions⟩, rfl⟩

end RoleSeed

/-! ### Specifications -/

namespace SeedSpec

theorem allDistinct_eq_true_iff {texts : List String} : allDistinct texts = true ↔ texts.Nodup := by
  induction texts with
  | nil => simp [allDistinct]
  | cons s rest ih => simp [allDistinct, ih]

/-- Nothing is found against the parts of a specification that go together. -/
theorem conflict?_eq_none_iff {spec : SeedSpec} : spec.conflict? = none ↔
    spec.collectionNames.Nodup ∧ (spec.roles.map RoleSeed.code).Nodup ∧
      (spec.roles ≠ [] → rolesCollection ∈ spec.collectionNames) := by
  rw [← allDistinct_eq_true_iff, ← allDistinct_eq_true_iff, conflict?]
  by_cases hnames : allDistinct spec.collectionNames = true
  · by_cases hcodes : allDistinct (spec.roles.map RoleSeed.code) = true
    · cases hroles : spec.roles <;> simp_all
    · simp [hnames, hcodes]
  · simp [hnames]

theorem decides_check (v : Value) : (check v).Decides fun spec => SpelledBy v spec ∧ spec.Valid := by
  refine (Check.decides_model (fun fields => (Checked.decides_record₄
    (Check.decides_required Check.decides_filledText "database" fields)
    (Check.decides_required PrincipalSpec.decides_check "principal" fields)
    (Check.decides_optional (Check.decides_list CollectionSpec.decides_check) "collections" [] fields)
    (Check.decides_optional (Check.decides_list RoleSeed.decides_check) "roles" [] fields) mk).refine
    fun spec _ => conflict?_eq_none_iff) v).congr fun spec => ?_
  simp only [Spells.items_and]
  constructor
  · rintro ⟨fields, rfl, ⟨database, principal, collections, roles, hdatabase, hprincipal, hcollections,
      hroles, rfl⟩, hnames, hcodes, hdeclared⟩
    obtain ⟨hdatabase, hfilled⟩ := Spells.required_and.1 hdatabase
    obtain ⟨hprincipal, hp⟩ := Spells.required_and.1 hprincipal
    obtain ⟨hcollections, hc⟩ := (Spells.optional_and (by rintro rfl; exact nofun)).1 hcollections
    obtain ⟨hroles, hr⟩ := (Spells.optional_and (by rintro rfl; exact nofun)).1 hroles
    exact ⟨⟨fields, rfl, hdatabase, hprincipal, hcollections, hroles⟩, hfilled, hp, hc, hnames, hr,
      hcodes, hdeclared⟩
  · rintro ⟨⟨fields, rfl, hdatabase, hprincipal, hcollections, hroles⟩, hvalid⟩
    exact ⟨fields, rfl, ⟨_, _, _, _, Spells.required_and.2 ⟨hdatabase, hvalid.database⟩,
      Spells.required_and.2 ⟨hprincipal, hvalid.principal⟩,
      (Spells.optional_and fun _ => hvalid.collections).2 ⟨hcollections, hvalid.collections⟩,
      (Spells.optional_and fun _ => hvalid.roles).2 ⟨hroles, hvalid.roles⟩, rfl⟩,
      hvalid.collectionNames, hvalid.roleCodes, hvalid.rolesDeclared⟩

/-- A specification is loaded just when the value spells it and it is valid. -/
theorem load_eq_ok_iff {v : Value} {spec : SeedSpec} :
    load v = .ok spec ↔ SpelledBy v spec ∧ spec.Valid := by
  rw [← ((decides_check v).toExcept "SeedSpec").1 spec, load]
  cases (check v).toExcept "SeedSpec" with
  | ok spec' =>
    exact ⟨fun h => congrArg Except.ok (Except.ok.inj h), fun h => congrArg Except.ok (Except.ok.inj h)⟩
  | error c => exact ⟨nofun, nofun⟩

/-- The database and the user of a built-in layout are checked and taken from what is given for them; the rest
of it is fixed. -/
theorem parts_of_builtIn {database user password role : Value} {spec : SeedSpec}
    (h : builtIn database user password role = .ok spec) :
    (database = .str spec.database ∧ spec.database ≠ "") ∧
      (PrincipalSpec.SpelledBy (.doc
          [("name", user), ("secret", password), ("role", role), ("grant_db", database)]) spec.principal ∧
        spec.principal.Valid) ∧
      spec.collections = builtInCollections ∧ spec.roles = builtInRoles := by
  obtain ⟨principal, hprincipal, h⟩ := exists_of_bind_eq_ok h
  obtain ⟨name, hname, h⟩ := exists_of_bind_eq_ok h
  obtain rfl := Except.ok.inj h
  exact ⟨((((Check.decides_filledText database).under _).toExcept _).1 name).1 hname,
    (((PrincipalSpec.decides_check _).toExcept _).1 principal).1 hprincipal, rfl, rfl⟩

/-- The built-in layout is valid for every database and user that are accepted. -/
theorem valid_of_builtIn {database user password role : Value} {spec : SeedSpec}
    (h : builtIn database user password role = .ok spec) : spec.Valid := by
  obtain ⟨⟨-, hfilled⟩, ⟨-, hvalid⟩, hcollections, hroles⟩ := parts_of_builtIn h
  have hcollectionsValid : ∀ c ∈ builtInCollections, c.Valid := by decide +kernel
  have hnames : (builtInCollections.map CollectionSpec.name).Nodup := by decide +kernel
  have hrolesValid : ∀ r ∈ builtInRoles, r.Valid := by decide +kernel
  have hcodes : (builtInRoles.map RoleSeed.code).Nodup := by decide +kernel
  have hdeclared : rolesCollection ∈ builtInCollections.map CollectionSpec.name := by decide +kernel
  rw [← hcollections] at hcollectionsValid hnames hdeclared
  rw [← hroles] at hrolesValid hcodes
  exact ⟨hfilled, hvalid, hcollectionsValid, hnames, hrolesValid, hcodes, fun _ => hdeclared⟩

/-- **Loading a specification.**  What is loaded from a value is the valid specification that the value
spells.  A value that spells none is refused, with at least one problem. -/
theorem load_spelled_valid (v : Value) :
    (∀ spec, load v = .ok spec ↔ SpelledBy v spec ∧ spec.Valid) ∧
      ((¬∃ spec, SpelledBy v spec ∧ spec.Valid) → ∃ c : Complaint, c.problems ≠ [] ∧
        load v = .error (.provision .validation ("Invalid seed specification: " ++ c.headline)
          (some loadStep) (some (.invalid c)))) := by
  refine ⟨fun spec => load_eq_ok_iff, fun hnone => ?_⟩
  obtain ⟨problems, hne, hc⟩ := ((decides_check v).toExcept "SeedSpec").2 hnone
  refine ⟨⟨"SeedSpec", problems⟩, hne, ?_⟩
  rw [load, hc]

end SeedSpec

end Bringup
