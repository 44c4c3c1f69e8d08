import Bringup.Proofs.CommandLine.Exit
import Bringup.Proofs.Settings.Valid

/-!
# The built-in layout for settings

* `SeedSpec.builtIn_str` : the layout for a database and a user, or the complaint about an empty role;
* `Options.run_main_emptyRole` : a run for settings with an empty role is left by that complaint;
* `SeedSpec.ofSettings_load` : for settings that are accepted there is a layout, unless the role is empty;
* `SeedSpec.ofSettings_load_emptyRole` : an empty role is accepted in settings.

The settings ask for a name and a password of the user and for a database, but for no role.  The
declaration of the user asks for a role as well.
-/

namespace Bringup

namespace SeedSpec

open Settings (filledText_str)

/-- What is said of a user whose role is empty. -/
def emptyRole : Complaint := ⟨"PrincipalSpec", [⟨[.field "role"], .textTooShort⟩]⟩

/-- The built-in layout for texts of which only the role may be empty. -/
theorem builtIn_str {database user password : String} (role : String) (hdatabase : database ≠ "")
    (huser : user ≠ "") :
    builtIn (.str database) (.str user) (.str password) (.str role) =
      if role = "" then .error emptyRole
      else .ok ⟨database, ⟨user, password, role, database⟩, builtInCollections, builtInRoles⟩ := by
  let given : Fields := [("name", .str user), ("secret", .str password), ("role", .str role),
    ("grant_db", .str database)]
  have hname : Check.required "name" Check.filledText given = .valid user :=
    congrArg (Checked.under _) (filledText_str huser)
  have hgrant : Check.required "grant_db" Check.filledText given = .valid database :=
    congrArg (Checked.under _) (filledText_str hdatabase)
  by_cases hrole : role = ""
  · subst hrole
    have hshort : Check.optional "role" "readWrite" Check.filledText given =
        .invalid [⟨[.field "role"], .textTooShort⟩] := rfl
    have hprincipal : PrincipalSpec.check (.doc given) = .invalid [⟨[.field "role"], .textTooShort⟩] := by
      rw [PrincipalSpec.check, Check.model, hname, hshort, hgrant]
      rfl
    rw [builtIn, hprincipal]
    rfl
  · have hfilled : Check.optional "role" "readWrite" Check.filledText given = .valid role :=
      congrArg (Checked.under _) (filledText_str hrole)
    have hprincipal : PrincipalSpec.check (.doc given) = .valid ⟨user, password, role, database⟩ := by
      rw [PrincipalSpec.check, Check.model, hname, hfilled, hgrant]
      rfl
    rw [builtIn, hprincipal, filledText_str hdatabase, if_neg hrole]
    rfl

theorem ofSettings_of_valid {s : Settings} (h : s.Valid) : ofSettings s =
    if s.appRole = "" then .error emptyRole
    else .ok ⟨s.database, ⟨s.appUser, s.appPassword, s.appRole, s.database⟩, builtInCollections,
      builtInRoles⟩ :=
  builtIn_str s.appRole h.database h.appUser

end SeedSpec

/-- A run for settings with an empty role, and without a seed file, is left by the complaint, before the
server is asked for anything. -/
theorem Options.run_main_emptyRole {o : Options} {s : Settings} {host : Host} {sight : Sight} {t : Server}
    {faults : List Fault} (hfile : o.seedFile = Option.none) (h : s.Valid) (hrole : s.appRole = "") :
    ((o.main s host).run sight t faults).result = .error (.invalid SeedSpec.emptyRole) ∧
      ((o.main s host).run sight t faults).calls = [] := by
  have hspec : o.spec s host = .error (.invalid SeedSpec.emptyRole) := by
    rw [Options.spec, hfile, SeedSpec.ofSettings_of_valid h, if_pos hrole]
  rw [Options.main, Options.run, hspec]
  exact ⟨rfl, rfl⟩

namespace SeedSpec

/-- **The layout of the settings.**  Settings that are accepted, from whatever sources, lead to a valid
built-in layout with the database and the user that they name, if only the role is not empty.  If it is,
they lead to the complaint about that role. -/
theorem ofSettings_load {sources : Settings.Sources} {s : Settings}
    (h : Settings.load sources = .ok s) :
    (s.appRole ≠ "" → ∃ spec, ofSettings s = .ok spec ∧ spec.Valid ∧ spec.database = s.database ∧
      spec.principal = ⟨s.appUser, s.appPassword, s.appRole, s.database⟩ ∧
      spec.collections = builtInCollections ∧ spec.roles = builtInRoles) ∧
    (s.appRole = "" → ofSettings s = .error emptyRole) := by
  have hsettings := ofSettings_of_valid (Settings.valid_of_load h)
  constructor
  · intro hrole
    rw [if_neg hrole] at hsettings
    exact ⟨_, hsettings, valid_of_builtIn hsettings, rfl, rfl, rfl, rfl⟩
  · intro hrole
    rw [hsettings, if_pos hrole]

/-- Settings when nothing is given. -/
def bareSettings : Settings :=
  ⟨none, "localhost", 27017, none, none, "admin", none, "gin_admin", "gin_admin", "gin_admin123",
    "readWrite", 10000, 30000, 30000, .upsert, .info, false⟩

/-- The name of the database is an argument, that of the user is in the environment, and the role is in the
settings file. -/
def mixedSources : Settings.Sources :=
  ⟨[("mongodb_db_name", .str "shop")], [("APP_DB_USER", "clerk")], "APP_DB_ROLE=dbOwner"⟩

/-- The layout takes each of them from its source. -/
theorem ofSettings_load_mixed :
    let s : Settings := { bareSettings with database := "shop", appUser := "clerk", appRole := "dbOwner" }
    Settings.load mixedSources = .ok s ∧ ∃ spec, ofSettings s = .ok spec ∧ spec.Valid ∧
      spec.database = "shop" ∧ spec.principal = ⟨"clerk", "gin_admin123", "dbOwner", "shop"⟩ := by
  intro s
  have hload : Settings.load mixedSources = .ok s := by rfl
  obtain ⟨spec, hspec, hvalid, hdatabase, hprincipal, -⟩ := (ofSettings_load hload).1 (by decide)
  exact ⟨hload, spec, hspec, hvalid, hdatabase, hprincipal⟩

/-- The role in the environment is empty. -/
def rolelessHost : Host := { Invocation.bareHost with sources := ⟨[], [("APP_DB_ROLE", "")], ""⟩ }

/-- An empty role is accepted in settings.  Then there is no layout for them, and the complaint is what
comes of the run. -/
theorem ofSettings_load_emptyRole :
    let s : Settings := { bareSettings with appRole := "" }
    Settings.load rolelessHost.sources = .ok s ∧ ofSettings s = .error emptyRole ∧
      ∃ p, (Invocation.ofWords [] rolelessHost).program? = some p ∧
        ∀ sight t faults, (p.run sight t faults).result = .error (.invalid emptyRole) ∧
          (p.run sight t faults).calls = [] := by
  intro s
  have hload : Settings.load rolelessHost.sources = .ok s := by rfl
  have hp : (Invocation.ofWords [] rolelessHost).program? = some (Options.none.main s rolelessHost) := by
    rfl
  exact ⟨hload, rfl, _, hp, fun _ _ _ =>
    Options.run_main_emptyRole rfl (Settings.valid_of_load hload) rfl⟩

end SeedSpec

end Bringup
