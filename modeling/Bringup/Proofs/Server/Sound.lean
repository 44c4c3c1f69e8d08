import Bringup.Proofs.Server.Driver

/-!
# Servers that store what runs can read

* `IndexInfo.isWhole` : the key of an index is made of pairs of a field and a whole number;
* `Server.Sound` : all stored indexes are like this, and every document has an identity;
* `Server.sound_answer` : no call changes that;
* `Exchange.Sound` : the replies of such a server;
* `IndexSpec.exists_matches?` : a comparison with such an index does not fail.
-/

namespace Bringup

/-! ### Directions -/

/-- The value is a whole number, be it written with or without a fraction of zero. -/
def Value.isWhole : Value → Bool
  | .int _ => true
  | .float x => x.isWhole
  | _ => false

/-- The key of the index is made of pairs of a field and a whole number. -/
def IndexInfo.isWhole (info : IndexInfo) : Bool :=
  (info.key.getD []).all fun
    | [_, direction] => direction.isWhole
    | _ => false

/-- A whole number is finite, and so it can be truncated. -/
theorem Value.exists_toInteger {v : Value} (h : v.isWhole = true) : ∃ n, v.toInteger = .ok n := by
  cases v with
  | int n => exact ⟨n, rfl⟩
  | float x =>
    rw [Value.isWhole, Binary64.isWhole] at h
    cases hr : x.ratio? with
    | none =>
      rw [hr] at h
      cases h
    | some q => exact ⟨_, by rw [Value.toInteger, Binary64.truncate?, hr]; rfl⟩
  | _ => cases h

namespace IndexSpec

variable {index : IndexSpec} {info : IndexInfo}

/-- A comparison with an index whose directions are whole numbers does not fail. -/
theorem exists_matches? (index : IndexSpec) (h : info.isWhole = true) :
    ∃ same, index.matches? info = .ok same := by
  cases hm : index.matches? info with
  | ok same => exact ⟨same, rfl⟩
  | error e =>
    obtain ⟨pair, hpair, he⟩ := exists_of_matches? hm
    have hwhole := List.all_eq_true.1 h pair hpair
    split at hwhole
    · obtain ⟨n, hn⟩ := Value.exists_toInteger hwhole
      rw [reportedPair, hn] at he
      cases he
    · cases hwhole

theorem isWhole_info : index.info.isWhole = true := by
  rw [IndexInfo.isWhole, info, Option.getD_some, List.all_map, List.all_eq_true]
  exact fun _ _ => rfl

end IndexSpec

/-! ### Associations and documents -/

namespace Assoc

variable {α : Type} {p : String × α} {a news : Assoc α}

theorem mem_of_mem_putAll (h : p ∈ putAll news a) : p ∈ news ∨ p ∈ a := by
  induction news generalizing a with
  | nil => exact .inr h
  | cons q rest ih =>
    rcases ih (a := put q.1 q.2 a) h with hrest | hput
    · exact .inl (List.mem_cons_of_mem _ hrest)
    · rcases mem_of_mem_put hput with rfl | ha
      · exact .inl List.mem_cons_self
      · exact .inr ha

end Assoc

theorem exists_of_mem_updateFirst {filter d : Fields} {change : Fields → Fields}
    {documents : List Fields} (h : d ∈ updateFirst filter change documents) :
    ∃ e ∈ documents, d = e ∨ d = change e := by
  induction documents with
  | nil => cases h
  | cons e rest ih =>
    rw [updateFirst] at h
    split at h
    · rcases List.mem_cons.1 h with rfl | hrest
      · exact ⟨e, List.mem_cons_self, .inr rfl⟩
      · exact ⟨d, List.mem_cons_of_mem _ hrest, .inl rfl⟩
    · rcases List.mem_cons.1 h with rfl | hrest
      · exact ⟨d, List.mem_cons_self, .inl rfl⟩
      · obtain ⟨f, hf, heq⟩ := ih hrest
        exact ⟨f, List.mem_cons_of_mem _ hf, heq⟩

/-! ### Collections -/

namespace Collection

/-- The directions of the stored indexes are whole numbers, and every document has an identity. -/
structure Sound (c : Collection) : Prop where
  directions : ∀ p ∈ c.indexes, p.2.isWhole = true
  identities : ∀ d ∈ c.documents, (d.lookup "_id").isSome = true

variable {c : Collection}

theorem sound_empty : Collection.empty.Sound := ⟨nofun, nofun⟩

theorem Sound.withIndex (h : c.Sound) (index : IndexSpec) :
    (c.withIndex index.indexName index.info).Sound where
  directions := fun p hp => by
    rcases Assoc.mem_of_mem_put hp with rfl | hp
    · exact IndexSpec.isWhole_info
    · exact h.directions p hp
  identities := h.identities

theorem Sound.concat (h : c.Sound) {d : Fields} (hd : (d.lookup "_id").isSome = true) :
    Sound { c with documents := c.documents ++ [d] } where
  directions := h.directions
  identities := fun e he => by
    rcases List.mem_append.1 he with he | he
    · exact h.identities e he
    · exact List.mem_singleton.1 he ▸ hd

theorem Sound.setFields (h : c.Sound) (filter fields : Fields) :
    Sound { c with documents := updateFirst filter (Assoc.putAll fields) c.documents } where
  directions := h.directions
  identities := fun d hd => by
    obtain ⟨e, he, rfl | rfl⟩ := exists_of_mem_updateFirst hd
    · exact h.identities d he
    · rw [Assoc.isSome_lookup_putAll, h.identities e he, Bool.or_true]

end Collection

/-! ### Servers -/

namespace Server

variable {s : Server} {database name : String} {c : Collection}

/-- All collections are sound. -/
def Sound (s : Server) : Prop := ∀ database name, (s.collection database name).Sound

theorem sound_putCollection (hs : s.Sound) (hc : c.Sound) :
    (s.putCollection database name c).Sound := by
  intro d n
  by_cases hd : d = database
  · subst hd
    rw [collection_putCollection]
    split
    · exact hc
    · exact hs d n
  · have hother : (s.putCollection database name c).collection d n = s.collection d n := by
      simp only [collection, collection?, collections, databases_putCollection hd]
    rw [hother]
    exact hs d n

/-- What is inserted has an identity, or is given one. -/
theorem sound_insert (hs : s.Sound) (document : Fields) :
    (s.insert database name document).2.Sound := by
  cases hd : document.lookup "_id" with
  | some identity =>
    rw [insert, hd]
    exact sound_putCollection hs ((hs database name).concat (by rw [hd]; rfl))
  | none =>
    rw [insert_of_lookup_none hd]
    exact sound_putCollection hs ((hs database name).concat (by simp))

/-- No call changes that a server is sound. -/
theorem sound_answer (hs : s.Sound) (v : Sight) (c : Call) : (s.answer v c).2.Sound := by
  cases c with
  | command database name value arguments =>
    simp only [answer]
    split
    · split
      · exact hs
      · exact hs
    · exact hs
  | createCollection database name =>
    rw [answer_createCollection]
    split
    · exact hs
    · exact sound_putCollection hs Collection.sound_empty
  | createIndex database name index =>
    exact sound_putCollection hs ((hs database name).withIndex index)
  | insertIfAbsent database name filter document =>
    rw [answer_insertIfAbsent]
    split
    · exact hs
    · exact sound_insert hs document
  | setFields database name filter fields =>
    simp only [answer]
    split
    · exact sound_putCollection hs ((hs database name).setFields filter fields)
    · exact hs
  | _ => exact hs

theorem isWhole_of_mem_indexInformation
    (h : ∀ p ∈ (s.collection database name).indexes, p.2.isWhole = true) {p : String × IndexInfo}
    (hp : p ∈ s.indexInformation database name) : p.2.isWhole = true := by
  rw [indexInformation] at hp
  split at hp
  · cases hp
  · rename_i c hc
    rcases Assoc.mem_of_mem_putAll hp with hp | hp
    · refine h p ?_
      rwa [collection_of_some hc]
    · rw [List.mem_singleton.1 hp]
      rfl

theorem identity_of_findFirst? (hs : s.Sound) {filter d : Fields}
    (hd : s.findFirst? database name filter = some d) : (d.lookup "_id").isSome = true :=
  (hs database name).identities d (List.mem_of_find?_eq_some hd)

end Server

/-! ### Replies -/

/-- What such a server replies to a call: the indexes that are read have directions that are whole
numbers, and a document that is read has an identity. -/
def Call.SoundReply : (c : Call) → c.Reply → Prop
  | .indexInformation .., (existing : Assoc IndexInfo) => ∀ p ∈ existing, p.2.isWhole = true
  | .findOne .., (stored : Option Fields) =>
    ∀ d, stored = some d → (d.lookup "_id").isSome = true
  | _, _ => True

/-- The failure of the exchange is one of the driver, and its answer is that of a sound server. -/
def Exchange.Sound (x : Exchange) : Prop :=
  match x.reply with
  | .error e => e.FromDriver
  | .ok reply => x.call.SoundReply reply

/-- In the weather of the driver a sound server remains one, and gives such replies. -/
theorem Weather.gives_sound : driver.Gives Server.Sound Exchange.Sound where
  struck := fun _ _ he => he
  answered := fun s v c hs _ => by
    refine ⟨?_, Server.sound_answer hs v c⟩
    rw [Exchange.Sound]
    split
    · exact Server.fromDriver_of_answer ‹_›
    · rename_i reply hreply
      cases c with
      | indexInformation database name =>
        obtain rfl := Except.ok.inj hreply
        exact fun p hp => Server.isWhole_of_mem_indexInformation (hs database name).directions hp
      | findOne database name filter =>
        obtain rfl := Except.ok.inj hreply
        intro d hd
        change (if v.blind = true then none else s.findFirst? database name filter) = some d at hd
        split at hd
        · cases hd
        · exact Server.identity_of_findFirst? hs hd
      | _ => trivial

end Bringup
