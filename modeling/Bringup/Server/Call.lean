import Bringup.Failure.Basic
import Bringup.Spec.Index

/-!
# Calls to a server

* `Call` : everything that is asked of the driver, the look-ups of a database or a collection included;
* `Call.Reply` : what a call answers with;
* `Call.kind`, `Call.target?` : the kind of a call, and the object that it names.
-/

namespace Bringup

/-- A call to the driver. -/
inductive Call where
  | connect (uri : String) (options : Fields)
  | database (name : String)
  | collection (database name : String)
  | command (database name : String) (value : Value) (arguments : Fields)
  | listCollections (database : String)
  | createCollection (database name : String)
  | indexInformation (database collection : String)
  | createIndex (database collection : String) (index : IndexSpec)
  | countDocuments (database collection : String)
  | find (database collection : String) (filter : Fields)
  | findOne (database collection : String) (filter : Fields)
  | insertIfAbsent (database collection : String) (filter document : Fields)
  | setFields (database collection : String) (filter fields : Fields)
  | close
  deriving DecidableEq

/-- The kinds of calls. -/
inductive CallKind where
  | connect
  | database
  | collection
  | command
  | listCollections
  | createCollection
  | indexInformation
  | createIndexes
  | countDocuments
  | find
  | findOne
  | updateOne
  | close
  deriving DecidableEq, Repr

namespace Call

/-- What a call answers with: the names of collections, the indexes by name, how many documents, the
documents, the first document, or the identity of the document that was inserted. -/
def Reply : Call → Type
  | .command .. => Value
  | .listCollections .. => List String
  | .indexInformation .. => Assoc IndexInfo
  | .countDocuments .. => Nat
  | .find .. => List Fields
  | .findOne .. => Option Fields
  | .insertIfAbsent .. => Option Value
  | .connect .. | .database .. | .collection .. | .createCollection .. | .createIndex ..
  | .setFields .. | .close => Unit

/-- The kind of a call. -/
def kind : Call → CallKind
  | .connect .. => .connect
  | .database .. => .database
  | .collection .. => .collection
  | .command .. => .command
  | .listCollections .. => .listCollections
  | .createCollection .. => .createCollection
  | .indexInformation .. => .indexInformation
  | .createIndex .. => .createIndexes
  | .countDocuments .. => .countDocuments
  | .find .. => .find
  | .findOne .. => .findOne
  | .insertIfAbsent .. | .setFields .. => .updateOne
  | .close => .close

/-- The database, collection or command that a call names. -/
def target? : Call → Option String
  | .connect .. | .close => none
  | .database name | .collection _ name | .command _ name _ _ | .listCollections name
  | .createCollection _ name | .indexInformation _ name | .createIndex _ name _
  | .countDocuments _ name | .find _ name _ | .findOne _ name _ | .insertIfAbsent _ name _ _
  | .setFields _ name _ _ => some name

end Call

end Bringup
