import Bringup.Failure.Basic
import Bringup.Text.Case
import Bringup.Text.Search

/-!
# The taxonomy of failures

* `Failure.classify` : a failure as one of the run's own classes, with the failure as its cause;
* `Failure.saysAlreadyExists` : the driver only reports that an object is there already;
* `Failure.saysUserExists` : the same of a user, whom older servers report as a duplicate key.
-/

namespace Bringup

namespace ServerCode

def badValue : Int := 2
def failedToParse : Int := 9
def unauthorized : Int := 13
def authenticationFailed : Int := 18
def namespaceExists : Int := 48
def cannotCreateIndex : Int := 67
def indexOptionsConflict : Int := 85
def indexKeysConflict : Int := 86
def duplicateKey : Int := 11000
def atlasUnauthorized : Int := 8000
def userExists : Int := 51003

/-- The object is there already. -/
def alreadyExists : List Int := [namespaceExists, userExists]

/-- The credential is rejected or grants too little. -/
def authorization : List Int := [unauthorized, authenticationFailed, atlasUnauthorized]

/-- The declaration is malformed or conflicts with what is there. -/
def validation : List Int :=
  [badValue, failedToParse, cannotCreateIndex, duplicateKey, indexOptionsConflict, indexKeysConflict]

end ServerCode

namespace Failure

/-- The failure has one of the codes. -/
def hasCode (codes : List Int) (e : Failure) : Bool :=
  match e.code? with
  | some code => codes.contains code
  | none => false

/-- The failure has no code, but says that something already exists. -/
def saysSo (e : Failure) : Bool :=
  e.code?.isNone && holdsText "already exists" (toLower e.text)

/-- The driver only reports that an object is there already. -/
def saysAlreadyExists (e : Failure) : Bool :=
  match e with
  | .driver kind .. =>
    kind == .collectionInvalid
      || (kind.isOperation && (e.hasCode ServerCode.alreadyExists || e.saysSo))
  | _ => false

/-- The failure reports that a user is there already. -/
def saysUserExists (e : Failure) : Bool :=
  e.hasCode [ServerCode.userExists, ServerCode.duplicateKey] || e.saysSo

/-- What is said of a failure, or its name when nothing is. -/
def message (e : Failure) : String := if e.text.isEmpty then e.name else e.text

/-- The class of the run's own taxonomy that a failure belongs to. -/
def kindOf (e : Failure) : ProvisionKind :=
  match e with
  | .provision kind .. => kind
  | .driver kind .. =>
    if kind.isConnection then .connectivity
    else if e.saysAlreadyExists then .alreadyExists
    else if kind = .duplicateKey then .validation
    else if kind.isOperation then
      if e.hasCode ServerCode.authorization || holdsText "not authorized" (toLower e.message) then
        .authorization
      else if e.hasCode ServerCode.validation then .validation
      else .general
    else if kind.isMalformed then .validation
    else .general
  | _ => .general

/-- A failure of the run's own taxonomy as it is; any other with its class, the step that was running,
and itself as the cause. -/
def classify (step : Option String) (e : Failure) : Failure :=
  match e with
  | .provision .. => e
  | _ => .provision e.kindOf e.message step (some e)

/-- The message of a failure without the name of its step. -/
def bareMessage : Failure → String
  | .provision _ message _ _ => message
  | e => e.text

end Failure

end Bringup
