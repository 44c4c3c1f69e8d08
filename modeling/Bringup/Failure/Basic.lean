import Bringup.Check.Problem
import Bringup.Value.Display

/-!
# Failures

* `Failure` : a failure of the run's own taxonomy, of the driver, of the runtime, or a complaint about a
  value; the first three may have a cause;
* `Failure.text` : what is said of a failure, `Failure.name` : the name of its class.
-/

namespace Bringup

/-- The classes of the run's own taxonomy. -/
inductive ProvisionKind where
  | general
  | alreadyExists
  | connectivity
  | authorization
  | validation
  deriving DecidableEq, Repr

/-- The classes of failures that the driver reports. -/
inductive DriverKind where
  | general
  | connection
  | waitQueueTimeout
  | autoReconnect
  | networkTimeout
  | notPrimary
  | selectionTimeout
  | operation
  | cursorNotFound
  | executionTimeout
  | writeConcern
  | writeConcernTimeout
  | write
  | duplicateKey
  | bulkWrite
  | configuration
  | invalidUri
  | invalidName
  | collectionInvalid
  | invalidOperation
  | protocol
  | encryption
  deriving DecidableEq, Repr

/-- The classes of failures that come from neither. -/
inductive RuntimeKind where
  | value
  | state
  | system
  | key
  | type
  | attribute
  | overflow
  | interrupt
  | notFound
  | isDirectory
  | notDirectory
  | badEncoding
  | badJson
  deriving DecidableEq, Repr

namespace ProvisionKind

/-- The name of a class. -/
def name : ProvisionKind → String
  | .general => "ProvisionError"
  | .alreadyExists => "AlreadyExistsError"
  | .connectivity => "ConnectivityError"
  | .authorization => "AuthorizationError"
  | .validation => "ValidationError"

/-- All classes. -/
def all : List ProvisionKind := [.general, .alreadyExists, .connectivity, .authorization, .validation]

end ProvisionKind

namespace DriverKind

/-- The name of a class. -/
def name : DriverKind → String
  | .general => "PyMongoError"
  | .connection => "ConnectionFailure"
  | .waitQueueTimeout => "WaitQueueTimeoutError"
  | .autoReconnect => "AutoReconnect"
  | .networkTimeout => "NetworkTimeout"
  | .notPrimary => "NotPrimaryError"
  | .selectionTimeout => "ServerSelectionTimeoutError"
  | .operation => "OperationFailure"
  | .cursorNotFound => "CursorNotFound"
  | .executionTimeout => "ExecutionTimeout"
  | .writeConcern => "WriteConcernError"
  | .writeConcernTimeout => "WTimeoutError"
  | .write => "WriteError"
  | .duplicateKey => "DuplicateKeyError"
  | .bulkWrite => "BulkWriteError"
  | .configuration => "ConfigurationError"
  | .invalidUri => "InvalidURI"
  | .invalidName => "InvalidName"
  | .collectionInvalid => "CollectionInvalid"
  | .invalidOperation => "InvalidOperation"
  | .protocol => "ProtocolError"
  | .encryption => "EncryptionError"

/-- All classes. -/
def all : List DriverKind :=
  [.general, .connection, .waitQueueTimeout, .autoReconnect, .networkTimeout, .notPrimary,
    .selectionTimeout, .operation, .cursorNotFound, .executionTimeout, .writeConcern,
    .writeConcernTimeout, .write, .duplicateKey, .bulkWrite, .configuration, .invalidUri,
    .invalidName, .collectionInvalid, .invalidOperation, .protocol, .encryption]

/-- The server could not be reached, or the connection was lost. -/
def isConnection : DriverKind → Bool
  | .connection | .waitQueueTimeout | .autoReconnect | .networkTimeout | .notPrimary
  | .selectionTimeout => true
  | _ => false

/-- The server refused an operation; only these have a code. -/
def isOperation : DriverKind → Bool
  | .operation | .cursorNotFound | .executionTimeout | .writeConcern | .writeConcernTimeout
  | .write | .duplicateKey | .bulkWrite => true
  | _ => false

/-- Options, a URI or a name were malformed. -/
def isMalformed : DriverKind → Bool
  | .configuration | .invalidUri | .invalidName => true
  | _ => false

/-- What is said of a failure of this class ends with its details. -/
def showsDetails (k : DriverKind) : Bool := k.isOperation || k == .notPrimary

end DriverKind

namespace RuntimeKind

/-- The name of a class. -/
def name : RuntimeKind → String
  | .value => "ValueError"
  | .state => "RuntimeError"
  | .system => "OSError"
  | .key => "KeyError"
  | .type => "TypeError"
  | .attribute => "AttributeError"
  | .overflow => "OverflowError"
  | .interrupt => "KeyboardInterrupt"
  | .notFound => "FileNotFoundError"
  | .isDirectory => "IsADirectoryError"
  | .notDirectory => "NotADirectoryError"
  | .badEncoding => "UnicodeDecodeError"
  | .badJson => "JSONDecodeError"

/-- All classes. -/
def all : List RuntimeKind :=
  [.value, .state, .system, .key, .type, .attribute, .overflow, .interrupt, .notFound, .isDirectory,
    .notDirectory, .badEncoding, .badJson]

end RuntimeKind

/-- A failure. -/
inductive Failure where
  | provision (kind : ProvisionKind) (message : String) (step : Option String)
      (cause : Option Failure)
  | driver (kind : DriverKind) (message : String) (code : Option Int) (details : Option Value)
      (cause : Option Failure)
  | runtime (kind : RuntimeKind) (message : String) (cause : Option Failure)
  | invalid (complaint : Complaint)

namespace Failure

instance : Inhabited Failure := ⟨.runtime .state "" none⟩

/-- A failure of the runtime without a cause. -/
def ofRuntime (kind : RuntimeKind) (message : String) : Failure := .runtime kind message none

/-- A failure of the driver.  Only a refused operation keeps its code; a refused batch has a message, a
code and details of its own. -/
def ofDriver (kind : DriverKind) (message : String) (code : Option Int) (details : Option Value)
    (cause : Option Failure) : Failure :=
  if kind = .bulkWrite then
    .driver kind "batch op errors occurred" (some 65) (some (details.getD (.doc []))) cause
  else
    .driver kind message (if kind.isOperation then code else none)
      (if kind.showsDetails then details else none) cause

/-- The name of a failure's class. -/
def name : Failure → String
  | .provision kind .. => kind.name
  | .driver kind .. => kind.name
  | .runtime kind .. => kind.name
  | .invalid _ => "ValidationError"

/-- A message of the run's own taxonomy behind the name of its step. -/
def stepText (message : String) (step : Option String) : String :=
  match step with
  | some step => if step.isEmpty then message else s!"[{step}] {message}"
  | none => message

/-- What is said of a failure. -/
def text : Failure → String
  | .provision _ message step _ => stepText message step
  | .driver _ message _ details _ =>
    match details with
    | some details => message ++ ", full error: " ++ details.display
    | none => message
  | .runtime .key message _ => quote message
  | .runtime _ message _ => message
  | .invalid complaint => complaint.headline

/-- The code of a refused operation. -/
def code? : Failure → Option Int
  | .driver _ _ code _ _ => code
  | _ => none

/-- Whether the driver reported the failure. -/
def isDriver : Failure → Bool
  | .driver .. => true
  | _ => false

end Failure

theorem eq_ok_of_toOption {ε α : Type} {x : Except ε α} {a : α} (h : x.toOption = some a) : x = .ok a := by
  cases x with
  | ok b => exact congrArg Except.ok (Option.some.inj h)
  | error e => cases h

theorem exists_of_bind_eq_ok {ε α β : Type} {x : Except ε α} {f : α → Except ε β} {b : β}
    (h : x.bind f = .ok b) : ∃ a, x = .ok a ∧ f a = .ok b := by
  cases x with
  | ok a => exact ⟨a, rfl, h⟩
  | error e => cases h

theorem exists_of_map_eq_ok {ε α β : Type} {x : Except ε α} {f : α → β} {b : β}
    (h : x.map f = .ok b) : ∃ a, x = .ok a ∧ f a = b := by
  cases x with
  | ok a => exact ⟨a, rfl, Except.ok.inj h⟩
  | error e => cases h

end Bringup
