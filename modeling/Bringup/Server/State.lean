import Bringup.Server.Call

/-!
# The state of a server

* `Server` : users, databases with their collections, and the number of identities given out;
* `Server.answer` : what a call answers, and the server after it;
* `Sight` : what a reader does not see: hidden collections, or all single documents.

Every call is carried out as a whole or not at all.  A database or a collection comes into being when
something is put into it.
-/

namespace Bringup

/-- A collection: its indexes by name, and its documents in the order of their insertion. -/
structure Collection where
  indexes : Assoc IndexInfo
  documents : List Fields
  deriving DecidableEq

/-- A server: the names of its users, its databases and their collections, and how many identities it has
given out. -/
structure Server where
  users : List String
  databases : Assoc (Assoc Collection)
  identities : Nat
  deriving DecidableEq

/-- What a stale reader does not see: some collections in a listing, and documents asked for one by
one. -/
structure Sight where
  hidden : List String
  blind : Bool
  deriving DecidableEq, Repr

/-- A reader that sees everything. -/
def Sight.clear : Sight := ⟨[], false⟩

namespace Collection

/-- A collection without indexes and documents. -/
def empty : Collection := ⟨[], []⟩

end Collection

/-- Whether a document has the fields of the filter, with equal values. -/
def matchesFilter (filter document : Fields) : Bool :=
  filter.all fun (field, value) =>
    match document.lookup field with
    | some v => v.equal value
    | none => false

/-- Changes the first document that the filter fits. -/
def updateFirst (filter : Fields) (change : Fields → Fields) : List Fields → List Fields
  | [] => []
  | d :: rest =>
    if matchesFilter filter d then change d :: rest else d :: updateFirst filter change rest

/-- The index that every collection has, on the identity of documents. -/
def identityIndex : String × IndexInfo :=
  ("_id_", ⟨some [[.str "_id", .int 1]], none, none⟩)

/-- A declared index as the server reports it. -/
def IndexSpec.info (index : IndexSpec) : IndexInfo :=
  { key := some (index.keys.map fun (field, d) => [.str field, .int d.number])
    unique := if index.unique then some (.bool true) else none
    sparse := if index.sparse then some (.bool true) else none }

namespace Server

/-- A server without users and databases. -/
def empty : Server := ⟨[], [], 0⟩

/-- The collections of a database. -/
def collections (s : Server) (database : String) : Assoc Collection :=
  (s.databases.lookup database).getD []

/-- A collection of a database, if it is there. -/
def collection? (s : Server) (database name : String) : Option Collection :=
  (s.collections database).lookup name

/-- The collection of a database, empty if it is not there. -/
def collection (s : Server) (database name : String) : Collection :=
  (s.collection? database name).getD .empty

/-- Puts a collection into a database. -/
def putCollection (s : Server) (database name : String) (c : Collection) : Server :=
  { s with databases := Assoc.put database (Assoc.put name c (s.collections database)) s.databases }

/-- The identity that the server gives out next. -/
def nextIdentity (s : Server) : Value := .str s!"id{s.identities + 1}"

/-- Puts a document at the end of a collection.  A document without an identity is given one. -/
def insert (s : Server) (database name : String) (document : Fields) : Value × Server :=
  let c := s.collection database name
  match document.lookup "_id" with
  | some identity =>
    (identity, s.putCollection database name { c with documents := c.documents ++ [document] })
  | none =>
    let identity := s.nextIdentity
    let document := ("_id", identity) :: document
    let s' := s.putCollection database name { c with documents := c.documents ++ [document] }
    (identity, { s' with identities := s.identities + 1 })

/-- The indexes of a collection as they are reported; none if it is not there. -/
def indexInformation (s : Server) (database name : String) : Assoc IndexInfo :=
  match s.collection? database name with
  | none => []
  | some c => Assoc.putAll c.indexes [identityIndex]

/-- The first document of a collection that the filter fits. -/
def findFirst? (s : Server) (database name : String) (filter : Fields) : Option Fields :=
  (s.collection database name).documents.find? (matchesFilter filter)

/-- The failure of creating a user that is there already. -/
def userExists (name database : String) : Failure :=
  .ofDriver .operation s!"User \"{name}@{database}\" already exists" (some 51003) none none

/-- The failure of creating a collection that is there already. -/
def collectionExists (name : String) : Failure :=
  .ofDriver .collectionInvalid s!"collection {name} already exists" none none none

/-- The name of the command that creates a user. -/
def createUser : String := "createUser"

/-- The answer of a command that was carried out. -/
def okReply : Value := .doc [("ok", .int 1)]

/-- What a call answers, and the server after it. -/
def answer (sight : Sight) (s : Server) : (c : Call) → Except Failure c.Reply × Server
  | .connect .. => (.ok (), s)
  | .database _ => (.ok (), s)
  | .collection .. => (.ok (), s)
  | .close => (.ok (), s)
  | .command database name value _ =>
    let user := value.display
    if name = createUser then
      if s.users.contains user then (.error (userExists user database), s)
      else (.ok okReply, { s with users := s.users ++ [user] })
    else (.ok okReply, s)
  | .listCollections database =>
    (.ok ((Assoc.keys (s.collections database)).filter fun name => !sight.hidden.contains name), s)
  | .createCollection database name =>
    match s.collection? database name with
    | some _ => (.error (collectionExists name), s)
    | none => (.ok (), s.putCollection database name .empty)
  | .indexInformation database name => (.ok (s.indexInformation database name), s)
  | .createIndex database name index =>
    let c := s.collection database name
    (.ok (), s.putCollection database name
      { c with indexes := Assoc.put index.indexName index.info c.indexes })
  | .countDocuments database name => (.ok (s.collection database name).documents.length, s)
  | .find database name filter =>
    (.ok ((s.collection database name).documents.filter (matchesFilter filter)), s)
  | .findOne database name filter =>
    (.ok (if sight.blind then none else s.findFirst? database name filter), s)
  | .insertIfAbsent database name filter document =>
    match s.findFirst? database name filter with
    | some _ => (.ok none, s)
    | none =>
      let (identity, s') := s.insert database name document
      (.ok (some identity), s')
  | .setFields database name filter fields =>
    match s.findFirst? database name filter with
    | some _ =>
      let c := s.collection database name
      (.ok (), s.putCollection database name
        { c with documents := updateFirst filter (Assoc.putAll fields) c.documents })
    | none => (.ok (), s)

end Server

end Bringup
