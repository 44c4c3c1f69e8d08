import Bringup.Main
import Bringup.Proofs.Program.Assurance
import Bringup.Proofs.Program.Reading
import Bringup.Proofs.Provision.Revision
import Bringup.Proofs.Server.Store
import Bringup.Proofs.Provision.Alike
import Bringup.Proofs.Provision.Finished
import Bringup.Proofs.Provision.Outline
import Bringup.Proofs.Provision.Rerun
import Bringup.Proofs.Provision.Convergence
import Bringup.Proofs.Program.Race
import Bringup.Proofs.Provision.Race
import Bringup.Proofs.Program.FailStop
import Bringup.Proofs.Provision.FailStop
import Bringup.Proofs.Provision.Frame
import Bringup.Proofs.Server.Driver
import Bringup.Proofs.Provision.Account
import Bringup.Proofs.Provision.AlreadyThere
import Bringup.Proofs.Server.Sound
import Bringup.Proofs.Verification.Surfacing
import Bringup.Proofs.Spec.Reported
import Bringup.Proofs.Verification.Findings
import Bringup.Proofs.Verification.Conformity
import Bringup.Proofs.Program.Steps
import Bringup.Proofs.Provision.IndexesFirst
import Bringup.Proofs.Verification.AfterProvision
import Bringup.Proofs.Provision.Object
import Bringup.Proofs.Provision.Deed
import Bringup.Proofs.Provision.Trail
import Bringup.Proofs.Provision.Faithful
import Bringup.Proofs.Check.Decides
import Bringup.Proofs.Check.Spelling
import Bringup.Proofs.Spec.Grammar
import Bringup.Proofs.Program.Runs
import Bringup.Proofs.Provision.Secrecy
import Bringup.Proofs.Verification.Satisfied
import Bringup.Proofs.CommandLine.Exit
import Bringup.Proofs.CommandLine.Conduct
import Bringup.Proofs.CommandLine.Closing
import Bringup.Proofs.Session.LifeCycle
import Bringup.Proofs.Provision.StaleReads
import Bringup.Proofs.Provision.Reordering
import Bringup.Proofs.Log.Escape
import Bringup.Proofs.Log.Line
import Bringup.Proofs.Log.Exposure
import Bringup.Proofs.Program.Halting
import Bringup.Proofs.Provision.Conflict
import Bringup.Proofs.Provision.Seeding
import Bringup.Proofs.Settings.BuiltIn
import Bringup.Proofs.Program.Agreement
import Bringup.Proofs.Provision.Groundwork
import Bringup.Proofs.Text.Utf8
import Bringup.Proofs.Json.Reader
import Bringup.Proofs.Text.Lines
import Bringup.Proofs.Json.LineEnds
import Bringup.Proofs.SeedFile.Reading
import Bringup.Proofs.Log.Hiding
import Bringup.Proofs.Uri.UserInfo
import Bringup.Proofs.Provision.Grant
import Bringup.Proofs.Json.Written
import Bringup.Proofs.Spec.Permissions
import Bringup.Proofs.Log.Decoded
import Bringup.Proofs.Time.Clock
