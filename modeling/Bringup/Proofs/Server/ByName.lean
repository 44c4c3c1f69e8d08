import Bringup.Proofs.Server.Store

/-!
# Servers that are the same by name

* `Server.SameByName` : two servers have the same users and have given out as many identities; under the same
  names they have collections with the same indexes, by name, and the same documents, in order;
* `Server.SameByName.putDocuments` : so it is after the documents of a collection were replaced in both;
* `Server.SameByName.answer` : calls about documents are answered alike, and keep the servers the same.

The order in which the collections of a database, or the indexes of a collection, came into being is no part
of this.
-/

namespace Bringup

namespace Server

/-- The servers are the same but for the order of collections and of indexes. -/
structure SameByName (s t : Server) : Prop where
  users : t.users = s.users
  identities : t.identities = s.identities
  collections : ∀ d n, (t.collection? d n).isSome ↔ (s.collection? d n).isSome
  indexes : ∀ d n index, t.view d n index = s.view d n index
  documents : ∀ d n, t.documents d n = s.documents d n

variable {s t : Server} {d n : String} {v : Sight}

/-- Collections of a database that is the same are the same. -/
theorem collection?_of_lookup (h : t.databases.lookup d = s.databases.lookup d) :
    t.collection? d n = s.collection? d n := by
  rw [collection?, collections, h]
  rfl

theorem collection_of_lookup (h : t.databases.lookup d = s.databases.lookup d) :
    t.collection d n = s.collection d n := by
  rw [collection, collection?_of_lookup h]
  rfl

/-- The documents of a collection are replaced. -/
def putDocuments (s : Server) (d n : String) (documents : List Fields) : Server :=
  s.putCollection d n { s.collection d n with documents }

variable {documents : List Fields}

theorem collection?_putDocuments (d' n' : String) : (s.putDocuments d n documents).collection? d' n' =
    if d' = d ∧ n' = n then some { s.collection d n with documents } else s.collection? d' n' := by
  by_cases hd : d' = d
  · subst hd
    rw [putDocuments, collection?_putCollection]
    simp only [true_and]
  · rw [if_neg fun hboth => hd hboth.1]
    exact collection?_of_lookup (databases_putCollection hd)

theorem view_putDocuments (d' n' index : String) :
    (s.putDocuments d n documents).view d' n' index = s.view d' n' index := by
  rw [view, collection, collection?_putDocuments]
  split <;> rename_i hboth
  · obtain ⟨rfl, rfl⟩ := hboth
    rfl
  · rfl

theorem documents_putDocuments (d' n' : String) : (s.putDocuments d n documents).documents d' n' =
    if d' = d ∧ n' = n then documents else s.documents d' n' := by
  rw [Server.documents, collection, collection?_putDocuments]
  split <;> rfl

namespace SameByName

theorem refl (s : Server) : s.SameByName s :=
  ⟨rfl, rfl, fun _ _ => .rfl, fun _ _ _ => rfl, fun _ _ => rfl⟩

/-- The documents of a collection are replaced in both. -/
theorem putDocuments (h : s.SameByName t) :
    (s.putDocuments d n documents).SameByName (t.putDocuments d n documents) where
  users := h.users
  identities := h.identities
  collections := fun d' n' => by
    rw [collection?_putDocuments, collection?_putDocuments]
    split
    · exact .rfl
    · exact h.collections d' n'
  indexes := fun d' n' index => by
    rw [view_putDocuments, view_putDocuments]
    exact h.indexes d' n' index
  documents := fun d' n' => by
    rw [documents_putDocuments, documents_putDocuments]
    split
    · rfl
    · exact h.documents d' n'

/-- A document is put at the end in both, with the same identity. -/
theorem insert (h : s.SameByName t) (document : Fields) :
    (t.insert d n document).1 = (s.insert d n document).1 ∧
      (s.insert d n document).2.SameByName (t.insert d n document).2 := by
  have hidentity : t.nextIdentity = s.nextIdentity := by rw [nextIdentity, h.identities]; rfl
  have hdocuments : (t.collection d n).documents = (s.collection d n).documents := h.documents d n
  unfold Server.insert
  cases hlookup : document.lookup "_id" with
  | some identity =>
    refine ⟨rfl, ?_⟩
    simp only [hdocuments]
    exact h.putDocuments
  | none =>
    refine ⟨hidentity, ?_⟩
    simp only [hdocuments, hidentity]
    let documents := (s.collection d n).documents ++ [("_id", s.nextIdentity) :: document]
    have hput : (s.putDocuments d n documents).SameByName (t.putDocuments d n documents) := h.putDocuments
    exact ⟨hput.users, congrArg (· + 1) h.identities, hput.collections, hput.indexes, hput.documents⟩

/-- Calls about documents are answered alike. -/
theorem answer (h : s.SameByName t) {c : Call} (hc : c.kind ∈ [.collection, .findOne, .updateOne]) :
    (t.answer v c).1 = (s.answer v c).1 ∧ (s.answer v c).2.SameByName (t.answer v c).2 := by
  have hfind (d n : String) (filter : Fields) : t.findFirst? d n filter = s.findFirst? d n filter :=
    congrArg (List.find? (matchesFilter filter)) (h.documents d n)
  cases c with
  | collection => exact ⟨rfl, h⟩
  | findOne d n filter => exact ⟨by simp only [Server.answer, hfind], h⟩
  | insertIfAbsent d n filter document =>
    simp only [Server.answer, hfind]
    cases s.findFirst? d n filter with
    | some _ => exact ⟨rfl, h⟩
    | none =>
      obtain ⟨hidentity, hsame⟩ := h.insert document
      exact ⟨by simp only [hidentity], hsame⟩
  | setFields d n filter fields =>
    simp only [Server.answer, hfind]
    cases s.findFirst? d n filter with
    | none => exact ⟨rfl, h⟩
    | some _ =>
      have hdocuments : (t.collection d n).documents = (s.collection d n).documents := h.documents d n
      refine ⟨rfl, ?_⟩
      simp only [hdocuments]
      exact h.putDocuments
  | _ => simp [Call.kind] at hc

end SameByName

end Server

end Bringup
