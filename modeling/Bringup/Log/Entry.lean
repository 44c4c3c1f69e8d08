import Bringup.Log.Level

/-!
# Entries of the log

* `Entry` : what a run says: a level, the name of a logger, a message, and the context it is said in;
* `LogNames` : the names of the loggers of a run.
-/

namespace Bringup

/-- What a run says at one moment. -/
structure Entry where
  level : Level
  logger : String
  message : String
  context : List (String × String)
  deriving DecidableEq, Repr

namespace LogNames

def provisioning : String := "provisioner.services.provisioner"
def verification : String := "provisioner.services.verification"
def session : String := "provisioner.core.database"
def commandLine : String := "provisioner.cli"
def setup : String := "provisioner.utils.logger"

end LogNames

end Bringup
