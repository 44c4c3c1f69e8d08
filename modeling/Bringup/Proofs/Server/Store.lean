import Bringup.Server.State

/-!
# What a server has stored

* `IndexView`, `Server.view` : what a collection stores under the name of an index, and what it reports;
* `Server.documents` : the documents of a collection;
* `Server.putCollection` and what is seen of the server after it;
* `IndexSpec.matches?_info` : a declared index matches what is reported of it;
* `IndexSpec.exists_of_matches?` : a comparison fails only at a pair that was read.

What is stored and what is reported are kept apart: every collection reports an index on the identity,
and none stores it.
-/

namespace Bringup

/-! ### Indexes of a collection -/

/-- What stands under the name of an index: the definition that is stored, and the one that is
reported. -/
structure IndexView where
  stored : Option IndexInfo
  reported : Option IndexInfo
  deriving DecidableEq

namespace Collection

variable {c : Collection} {name other : String} {info : IndexInfo}

/-- What stands under the name of an index. -/
def view (c : Collection) (name : String) : IndexView :=
  ⟨c.indexes.lookup name, (Assoc.putAll c.indexes [identityIndex]).lookup name⟩

/-- The collection with one more index. -/
def withIndex (c : Collection) (name : String) (info : IndexInfo) : Collection :=
  { c with indexes := Assoc.put name info c.indexes }

/-- What is not reported is not stored. -/
theorem stored_of_reported (h : (c.view name).reported = none) : (c.view name).stored = none := by
  cases hs : (c.view name).stored with
  | none => rfl
  | some info =>
    have := Assoc.isSome_lookup_putAll name c.indexes [identityIndex]
    rw [show c.indexes.lookup name = some info from hs,
      show (Assoc.putAll c.indexes [identityIndex]).lookup name = none from h] at this
    cases this

/-- What is not stored is not reported, but for the index on the identity. -/
theorem reported_of_stored (h : (c.view name).stored = none) (hne : name ≠ identityIndex.1) :
    (c.view name).reported = none := by
  refine (Assoc.lookup_putAll_of_lookup_none h).trans ?_
  rw [List.lookup_cons, beq_eq_false_iff_ne.2 hne]
  rfl

/-- An index that is stored already changes nothing. -/
theorem withIndex_of_stored (h : (c.view name).stored = some info) : c.withIndex name info = c := by
  rw [withIndex, Assoc.put_of_lookup h]

/-- A new index is stored and reported, and all others remain. -/
theorem view_withIndex (h : (c.view name).stored = none) : (c.withIndex name info).view other =
    if other = name then ⟨some info, some info⟩ else c.view other := by
  have hput : (c.withIndex name info).indexes = c.indexes ++ [(name, info)] :=
    Assoc.put_of_lookup_none h
  -- the index on the identity comes first in what is reported, and does not hide the new one
  have hreported : Assoc.putAll (c.indexes ++ [(name, info)]) [identityIndex] =
      Assoc.put name info (Assoc.putAll c.indexes [identityIndex]) := Assoc.putAll_append
  have hstored : (c.withIndex name info).indexes.lookup other =
      if other = name then some info else c.indexes.lookup other := Assoc.lookup_put
  rw [view, hstored, hput, hreported, Assoc.lookup_put, view]
  split <;> rfl

/-- What stands under a name depends on the indexes alone. -/
theorem view_congr {d : Collection} (h : c.indexes = d.indexes) : c.view name = d.view name := by
  rw [view, view, h]

end Collection

/-! ### A declared index and what is reported of it -/

namespace IndexSpec

variable {index : IndexSpec}

theorem reportedKeys_info (keys : List (String × Direction)) :
    reportedKeys (keys.map fun (field, d) => [.str field, .int d.number]) =
      .ok (keys.map fun (field, d) => (.str field, d.number)) := by
  induction keys with
  | nil => rfl
  | cons key keys ih =>
    obtain ⟨field, d⟩ := key
    rw [List.map_cons, reportedKeys, ih]
    rfl

theorem sameKeys_info (keys : List (String × Direction)) :
    sameKeys (keys.map fun (field, d) => (.str field, d.number)) keys = true := by
  induction keys with
  | nil => rfl
  | cons key keys ih =>
    obtain ⟨field, d⟩ := key
    simp only [List.map_cons, sameKeys, ih, Value.equal_str_iff.2, beq_self_eq_true, Bool.and_self]

theorem reportedFlag_info (flag : Bool) :
    reportedFlag (if flag then some (.bool true) else none) = flag := by
  cases flag <;> rfl

/-- A declared index matches what is reported of it. -/
theorem matches?_info : index.matches? index.info = .ok true := by
  rw [matches?, info, Option.getD_some, reportedKeys_info]
  simp only [reportedFlag_info, Except.map, sameKeys_info, beq_self_eq_true, Bool.and_self]

end IndexSpec

/-! ### A comparison that fails -/

/-- What is made of a value does not fail by itself. -/
theorem error_of_map {α β : Type} {x : Except Failure α} {f : α → β} {e : Failure}
    (h : x.map f = .error e) : x = .error e := by
  cases x with
  | error e' => exact congrArg _ (Except.error.inj h)
  | ok a => cases h

namespace IndexSpec

variable {index : IndexSpec} {info : IndexInfo} {e : Failure}

theorem exists_of_reportedKeys {pairs : List (List Value)} (h : reportedKeys pairs = .error e) :
    ∃ pair ∈ pairs, reportedPair pair = .error e := by
  induction pairs with
  | nil => cases h
  | cons pair pairs ih =>
    rw [reportedKeys] at h
    split at h
    · rename_i hpair
      obtain rfl := Except.error.inj h
      exact ⟨pair, List.mem_cons_self, hpair⟩
    · obtain ⟨q, hq, he⟩ := ih (error_of_map h)
      exact ⟨q, List.mem_cons_of_mem _ hq, he⟩

/-- A comparison fails only at a pair that was read. -/
theorem exists_of_matches? (h : index.matches? info = .error e) :
    ∃ pair ∈ info.key.getD [], reportedPair pair = .error e :=
  exists_of_reportedKeys (error_of_map h)

end IndexSpec

/-! ### Collections of a server -/

namespace Server

variable {s : Server} {database name other : String} {c : Collection}

/-- What stands under the name of an index in a collection. -/
def view (s : Server) (database name index : String) : IndexView :=
  (s.collection database name).view index

/-- The documents of a collection. -/
def documents (s : Server) (database name : String) : List Fields :=
  (s.collection database name).documents

/-- Other databases remain. -/
theorem databases_putCollection (h : other ≠ database) :
    (s.putCollection database name c).databases.lookup other = s.databases.lookup other :=
  Assoc.lookup_put_of_ne h

theorem collection?_putCollection : (s.putCollection database name c).collection? database other =
    if other = name then some c else s.collection? database other := by
  unfold collection? collections putCollection
  rw [Assoc.lookup_put_self, Option.getD_some, Assoc.lookup_put]
  rfl

theorem collection_putCollection : (s.putCollection database name c).collection database other =
    if other = name then c else s.collection database other := by
  rw [collection, collection?_putCollection]
  split <;> rfl

theorem view_putCollection {index : String} :
    (s.putCollection database name c).view database other index =
      if other = name then c.view index else s.view database other index := by
  rw [view, collection_putCollection]
  split <;> rfl

theorem documents_putCollection : (s.putCollection database name c).documents database other =
    if other = name then c.documents else s.documents database other := by
  rw [documents, collection_putCollection]
  split <;> rfl

/-- A collection that is not there looks like an empty one. -/
theorem collection_of_none (h : s.collection? database name = none) :
    s.collection database name = .empty := by
  rw [collection, h, Option.getD_none]

theorem collection_of_some (h : s.collection? database name = some c) :
    s.collection database name = c := by
  rw [collection, h, Option.getD_some]

/-- The reported indexes of a collection that is there. -/
theorem lookup_indexInformation (h : (s.collection? database name).isSome) {index : String} :
    (s.indexInformation database name).lookup index = (s.view database name index).reported := by
  obtain ⟨c, hc⟩ := Option.isSome_iff_exists.1 h
  rw [indexInformation, hc, view, collection_of_some hc]
  rfl

theorem mem_listed :
    name ∈ Assoc.keys (s.collections database) ↔ (s.collection? database name).isSome :=
  Assoc.mem_keys_iff

/-- A document without an identity is given the next one. -/
theorem insert_of_lookup_none {document : Fields} (h : document.lookup "_id" = none) :
    s.insert database name document = (s.nextIdentity,
      { s.putCollection database name { s.collection database name with
          documents := s.documents database name ++ [("_id", s.nextIdentity) :: document] } with
        identities := s.identities + 1 }) := by
  rw [insert, h]
  rfl

/-! ### Answers -/

/-- A user is created unless there is one of this name. -/
theorem answer_createUser {sight : Sight} {user : String} {arguments : Fields} :
    s.answer sight (.command database createUser (.str user) arguments) =
      if user ∈ s.users then (.error (userExists user database), s)
      else (.ok okReply, { s with users := s.users ++ [user] }) := by
  simp only [answer, ↓reduceIte, Value.display, List.contains_iff_mem]

/-- A collection is created unless it is there. -/
theorem answer_createCollection {sight : Sight} :
    s.answer sight (.createCollection database name) =
      if (s.collection? database name).isSome then (.error (collectionExists name), s)
      else (.ok (), s.putCollection database name .empty) := by
  simp only [answer]
  cases s.collection? database name <;> rfl

/-- The first document that the filter fits is found, unless the reader is blind. -/
theorem answer_findOne {sight : Sight} {filter : Fields} {found : Option Fields}
    (h : (if sight.blind = true then none
      else (s.documents database name).find? (matchesFilter filter)) = found) :
    s.answer sight (.findOne database name filter) = (.ok found, s) := by
  rw [← h]
  rfl

/-- A document is inserted unless one is there that the filter fits. -/
theorem answer_insertIfAbsent {sight : Sight} {filter document : Fields} :
    s.answer sight (.insertIfAbsent database name filter document) =
      if ((s.documents database name).find? (matchesFilter filter)).isSome then (.ok none, s)
      else (.ok (some (s.insert database name document).1), (s.insert database name document).2) := by
  cases hd : (s.documents database name).find? (matchesFilter filter) with
  | none =>
    have hfind : s.findFirst? database name filter = none := hd
    simp only [answer, hfind]
    rfl
  | some d =>
    have hfind : s.findFirst? database name filter = some d := hd
    simp only [answer, hfind]
    rfl

/-- A change succeeds whether or not there is a document to change, and goes by no sight. -/
theorem answer_setFields_eq {sight : Sight} {filter fields : Fields} :
    s.answer sight (.setFields database name filter fields) =
      (.ok (), (s.answer .clear (.setFields database name filter fields)).2) := by
  simp only [answer]
  cases s.findFirst? database name filter <;> rfl

/-- The first document that the filter fits is changed, if there is one. -/
theorem answer_setFields {sight : Sight} {filter fields : Fields}
    (h : ((s.documents database name).find? (matchesFilter filter)).isSome) :
    s.answer sight (.setFields database name filter fields) =
      (.ok (), s.putCollection database name { s.collection database name with
        documents := updateFirst filter (Assoc.putAll fields) (s.documents database name) }) := by
  obtain ⟨d, hd⟩ := Option.isSome_iff_exists.1 h
  have hfind : s.findFirst? database name filter = some d := hd
  simp only [answer, hfind]
  rfl

end Server

end Bringup
