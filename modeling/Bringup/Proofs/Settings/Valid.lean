import Bringup.Proofs.Check.Spelling
import Bringup.Settings.Check

/-!
# Settings that are accepted

* `Settings.Valid` : the conditions on the fields of settings;
* `Settings.valid_of_load` : settings are valid, wherever they come from;
* `Settings.exists_load_iff` : and there are no other conditions.

For the last, valid settings are read from their own fields, given as arguments.
-/

namespace Bringup

/-! ### Valid settings -/

namespace Settings

/-- Names of the database and the user, and its password, are there; numbers are in their ranges; and a
text that may be missing is not blank.  Nothing is asked of the role. -/
structure Valid (s : Settings) : Prop where
  uri : ∀ t ∈ s.uri, isBlankText t = false
  port : 1 ≤ s.port ∧ s.port ≤ 65535
  username : ∀ t ∈ s.username, isBlankText t = false
  password : ∀ t ∈ s.password, isBlankText t = false
  replicaSet : ∀ t ∈ s.replicaSet, isBlankText t = false
  database : s.database ≠ ""
  appUser : s.appUser ≠ ""
  appPassword : s.appPassword ≠ ""
  connectTimeout : 1 ≤ s.connectTimeout
  selectionTimeout : 1 ≤ s.selectionTimeout
  socketTimeout : 1 ≤ s.socketTimeout

theorem ensures_optionalText (v : Value) :
    (optionalText v).Ensures fun t => ∀ u ∈ t, isBlankText u = false := by
  refine .map (Checked.ensures_any.mono fun t _ u hu => ?_)
  simpa using (Option.filter_eq_some_iff.1 hu).2

theorem ensures_portNumber (v : Value) : (portNumber v).Ensures fun n => 1 ≤ n ∧ n ≤ 65535 :=
  (Checked.ensures_any.bind fun _ _ => Check.ensures_atLeast).bind fun _ hn => Check.ensures_atMost hn

theorem ensures_timeout (v : Value) : (timeout v).Ensures (1 ≤ ·) :=
  Checked.ensures_any.bind fun _ _ => Check.ensures_atLeast

theorem ensures_filledText (v : Value) : (Check.filledText v).Ensures (· ≠ "") :=
  (Check.decides_filledText v).ensures.mono fun _ h => h.2

/-- The defaults are valid as well, so that nothing need be known of what is given. -/
theorem ensures_check (given : Fields) : (check given).Ensures Valid := by
  have hany {α : Type} {name : String} {absent : α} {check : Value → Checked α} :
      (Check.optional name absent check given).Ensures fun _ => True := Checked.ensures_any
  have hunset {name : String} : (Check.optional name none optionalText given).Ensures
      fun t => ∀ u ∈ t, isBlankText u = false := Check.ensures_optional nofun ensures_optionalText
  have hfilled {name absent : String} (h : absent ≠ "") :
      (Check.optional name absent Check.filledText given).Ensures (· ≠ "") :=
    Check.ensures_optional h ensures_filledText
  have htimeout {name : String} {absent : Int} (h : 1 ≤ absent) :
      (Check.optional name absent timeout given).Ensures (1 ≤ ·) :=
    Check.ensures_optional h ensures_timeout
  unfold check
  -- from the last field to the first one
  refine .apply (.apply (.apply (.apply (.apply (.apply ?_ (htimeout (by decide)))
    (htimeout (by decide))) (htimeout (by decide))) hany) hany) hany
  refine .apply (.apply (.apply (.apply ?_ (hfilled (by decide))) (hfilled (by decide)))
    (hfilled (by decide))) hany
  refine .apply (.apply (.apply (.apply (.apply (.apply (.map (hunset.mono ?_)) hany)
    (Check.ensures_optional (by decide) ensures_portNumber)) hunset) hunset) hany) hunset
  intro uri huri host _ port hport username husername password hpassword authSource _ replicaSet
    hreplicaSet database hdatabase appUser happUser appPassword happPassword appRole _ connect hconnect
    selection hselection socket hsocket seedPolicy _ logLevel _ jsonLogs _
  exact ⟨huri, hport, husername, hpassword, hreplicaSet, hdatabase, happUser, happPassword, hconnect,
    hselection, hsocket⟩

/-- Settings that are loaded are valid, whatever their sources are. -/
theorem valid_of_load {sources : Sources} {s : Settings} (h : load sources = .ok s) : s.Valid := by
  have hvalid := ensures_check sources.fields
  rw [load] at h
  cases hcheck : check sources.fields with
  | valid a =>
    rw [hcheck] at h hvalid
    exact Except.ok.inj h ▸ hvalid
  | invalid problems =>
    rw [hcheck] at h
    cases h

/-! ### Settings as arguments -/

theorem optionalText_orNull {t : Option String} (h : ∀ u ∈ t, isBlankText u = false) :
    optionalText ((t.map Value.str).getD .null) = .valid t := by
  cases t with
  | none => rfl
  | some u =>
    have hkept : unlessBlank (some u) = some u := Option.filter_eq_some_iff.2 ⟨rfl, by simp [h u rfl]⟩
    exact congrArg Checked.valid hkept

theorem filledText_str {t : String} (h : t ≠ "") : Check.filledText (.str t) = .valid t := by
  have hempty : t.isEmpty = false := by simpa using h
  simp only [Check.filledText, Check.text, Checked.bind, hempty]
  rfl

theorem portNumber_int {n : Int} (h : 1 ≤ n ∧ n ≤ 65535) : portNumber (.int n) = .valid n := by
  simp only [portNumber, Check.integer, Checked.bind, Check.atLeast, Check.atMost,
    if_neg (Int.not_lt.2 h.1), if_neg (Int.not_lt.2 h.2)]

theorem timeout_int {n : Int} (h : 1 ≤ n) : timeout (.int n) = .valid n := by
  simp only [timeout, Check.integer, Checked.bind, Check.atLeast, if_neg (Int.not_lt.2 h)]

theorem policyNamed_name (policy : SeedPolicy) : policyNamed (.str policy.name) = .valid policy := by
  cases policy <;> decide +kernel

theorem levelNamed_name (level : Level) : levelNamed (.str (toLower level.name)) = .valid level := by
  cases level <;> decide +kernel

/-- The fields of valid settings are checked to be these settings. -/
theorem check_fields {s : Settings} (h : s.Valid) : check s.fields = .valid s := by
  have field {α : Type} {absent : α} {check : Value → Checked α} {v : Value} {a : α} (name : String)
      (hl : s.fields.lookup name = some v) (hc : check v = .valid a) :
      Check.optional name absent check s.fields = .valid a := by
    rw [Check.optional, hl]
    exact congrArg (Checked.under _) hc
  have text (t : String) : Check.text (.str t) = .valid t := rfl
  have truth (b : Bool) : Check.truth (.bool b) = .valid b := rfl
  rw [check, field "mongodb_uri" rfl (optionalText_orNull h.uri), field "mongodb_host" rfl (text s.host),
    field "mongodb_port" rfl (portNumber_int h.port),
    field "mongodb_username" rfl (optionalText_orNull h.username),
    field "mongodb_password" rfl (optionalText_orNull h.password),
    field "mongodb_auth_source" rfl (text s.authSource),
    field "mongodb_replica_set" rfl (optionalText_orNull h.replicaSet),
    field "mongodb_db_name" rfl (filledText_str h.database),
    field "app_db_user" rfl (filledText_str h.appUser),
    field "app_db_password" rfl (filledText_str h.appPassword), field "app_db_role" rfl (text s.appRole),
    field "mongodb_connect_timeout_ms" rfl (timeout_int h.connectTimeout),
    field "mongodb_server_selection_timeout_ms" rfl (timeout_int h.selectionTimeout),
    field "mongodb_socket_timeout_ms" rfl (timeout_int h.socketTimeout),
    field "seed_policy" rfl (policyNamed_name s.seedPolicy),
    field "log_level" rfl (levelNamed_name s.logLevel), field "json_logs" rfl (truth s.jsonLogs)]
  rfl

/-- Settings come from some sources just when they are valid. -/
theorem exists_load_iff {s : Settings} : (∃ sources, load sources = .ok s) ↔ s.Valid := by
  constructor
  · rintro ⟨sources, h⟩
    exact valid_of_load h
  · intro h
    refine ⟨⟨s.fields, [], ""⟩, ?_⟩
    have hnames : (Assoc.keys s.fields).Nodup := by
      rw [keys_fields]
      decide
    have hsources : (Sources.mk s.fields [] "").fields = s.fields := Assoc.putAll_of_nodup hnames
    rw [load, hsources, check_fields h]
    rfl

end Settings

end Bringup
