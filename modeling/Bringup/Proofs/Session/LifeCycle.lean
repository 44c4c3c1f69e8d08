import Bringup.Proofs.Session.Opening
import Bringup.Proofs.Settings.BuiltIn

/-!
# The life of a session

* `SessionAct.Recounts` : whatever its calls are replied, an act ends as is said of its value or its failure,
  of the session after it and of all that was exchanged until then;
* `SessionAct.recounts_connect`, `SessionAct.recounts_close` : what becomes of the session, and of its client;
* `SessionAct.guarded_ofSettings` : what a new session guards is a program with a client of its own;
* `Session.uses` : uses of a session one after the other, whatever each of them gives or raises;
* `Session.Conduct` : what is true of one use, of its calls, of what it gave and of the session after it;
* `Session.recounts_step` : every use is so, whatever failures of the driver its calls meet;
* `Session.life_cycle` : after any uses of a new session, as many clients are open as it says, and the next
  use is so.

The invariant is the number of clients: what a use opens and closes is the change of `Session.connected`, on
its way out with a failure as well.
-/

namespace Bringup

/-! ### Rules for acts -/

namespace SessionAct

variable {α β : Type} {N : Exchange → Prop} {ok : α → Session → List Exchange → Prop}
  {bad : Failure → Session → List Exchange → Prop} {x : SessionAct α} {s : Session} {xs : List Exchange}

/-- Whatever replies of the kind `N` its calls get, the act ends as `ok` says of its value or as `bad` says
of its failure, of the session after it and of all that was exchanged until then. -/
def Recounts (N : Exchange → Prop) (ok : α → Session → List Exchange → Prop)
    (bad : Failure → Session → List Exchange → Prop) (x : SessionAct α) (s : Session)
    (xs : List Exchange) : Prop :=
  (x s).Recounts N (fun after => Program.ToldAs (ok · after.2) (bad · after.2) after.1)
    (fun _ _ => False) xs

theorem Recounts.mono {ok' : α → Session → List Exchange → Prop}
    {bad' : Failure → Session → List Exchange → Prop} (h : x.Recounts N ok bad s xs)
    (hok : ∀ a t ys, ok a t ys → ok' a t ys) (hbad : ∀ e t ys, bad e t ys → bad' e t ys) :
    x.Recounts N ok' bad' s xs := by
  refine Program.Recounts.mono h ?_ fun _ _ h => h
  rintro ⟨e | a, t⟩ ys hends
  · exact hbad e t ys hends
  · exact hok a t ys hends

/-- What was exchanged until the end is of the kind of which the replies are. -/
theorem Recounts.and_replies (h : x.Recounts N ok bad s xs) (hxs : ∀ x ∈ xs, N x) :
    x.Recounts N (fun a t ys => ok a t ys ∧ ∀ y ∈ ys, N y) (fun e t ys => bad e t ys ∧ ∀ y ∈ ys, N y)
      s xs := by
  refine Program.Recounts.mono (Program.Recounts.and h (Program.recounts_replies hxs)) ?_
    fun _ _ h => h.1
  rintro ⟨e | a, t⟩ ys hends
  · exact hends
  · exact hends

theorem recounts_pure {a : α} (h : ok a s xs) : (pure a : SessionAct α).Recounts N ok bad s xs := h

theorem recounts_raise {e : Failure} (h : bad e s xs) : (raise e).Recounts N ok bad s xs := h

theorem recounts_settings {ok : Settings → Session → List Exchange → Prop} (h : ok s.settings s xs) :
    settings.Recounts N ok bad s xs := h

theorem recounts_connected {ok : Bool → Session → List Exchange → Prop} (h : ok s.connected s xs) :
    connected.Recounts N ok bad s xs := h

theorem recounts_setConnected {b : Bool} {ok : Unit → Session → List Exchange → Prop}
    (h : ok () { s with connected := b } xs) : (setConnected b).Recounts N ok bad s xs := h

theorem recounts_ofProgram {p : Program α} (h : p.Recounts N (ok · s) (bad · s) xs) :
    (ofProgram p).Recounts N ok bad s xs :=
  Program.recounts_bind (Program.recounts_attempt h)

theorem recounts_bind {f : α → SessionAct β} {ok : β → Session → List Exchange → Prop}
    (h : x.Recounts N (fun a t ys => (f a).Recounts N ok bad t ys) bad s xs) :
    (x >>= f).Recounts N ok bad s xs := by
  refine Program.Recounts.seq h ?_
  rintro ⟨e | a, t⟩ ys hends
  · exact hends
  · exact hends

/-- The rule for a last act: it goes on from the session that the first one left, on either way out. -/
theorem recounts_ensuring {last : SessionAct Unit}
    (h : x.Recounts N (fun a t ys => last.Recounts N (fun _ u zs => ok a u zs) bad t ys)
      (fun e t ys => last.Recounts N (fun _ u zs => bad e u zs) bad t ys) s xs) :
    (x.ensuring last).Recounts N ok bad s xs := by
  refine Program.Recounts.seq h ?_
  rintro ⟨e | a, t⟩ ys hends
  all_goals
    refine Program.Recounts.seq hends ?_
    rintro ⟨e' | ⟨⟩, u⟩ zs hlast
    · exact hlast
    · exact hlast

/-! ### What becomes of the client -/

/-- Connecting opens a client and keeps it, unless one is kept already; where it fails, none is. -/
theorem recounts_connect : connect.Recounts N
    (fun _ t ys => t = { s with connected := true } ∧ if s.connected then ys = [] else Settings.Opened ys)
    (fun e t ys => t = s ∧ s.connected = false ∧ (Settings.Unopened e ys ∨ OpeningCutShort ys)) s [] := by
  refine recounts_bind (recounts_connected ?_)
  split <;> rename_i hs
  · exact recounts_ofProgram (Program.recounts_say ⟨by rw [← hs], rfl⟩)
  · refine recounts_bind (recounts_settings (recounts_bind (recounts_ofProgram ?_)))
    refine s.settings.recounts_openAnswering.mono (fun _ ys hopened => ?_) fun e ys hends =>
      ⟨rfl, by simpa using hs, hends⟩
    exact recounts_bind (recounts_setConnected (recounts_ofProgram (Program.recounts_say ⟨rfl, hopened⟩)))

/-- The client of `s`, if it has one, was told to close once, and `t` is `s` without a client. -/
def Closed (s t : Session) (xs : List Exchange) : Prop :=
  t = { s with connected := false } ∧ xs.countP Exchange.opens = 0 ∧
    xs.countP Exchange.closes = s.connected.toNat

/-- Closing leaves no client, whether it succeeds or not. -/
theorem recounts_close :
    close.Recounts N (fun _ => Closed s) (fun _ => Closed s) s [] := by
  refine recounts_bind (recounts_connected ?_)
  split <;> rename_i hs
  · refine recounts_ensuring (recounts_ofProgram (Program.recounts_bind (Program.recounts_perform ?_ ?_)))
    · exact fun _ _ => Program.recounts_say (recounts_setConnected ⟨rfl, rfl, by rw [hs]; rfl⟩)
    · exact fun _ _ => recounts_setConnected ⟨rfl, rfl, by rw [hs]; rfl⟩
  · replace hs : s.connected = false := by simpa using hs
    exact recounts_pure ⟨by rw [← hs], rfl, by rw [hs]; rfl⟩

/-- What needs a client goes on where there is one, and is refused where there is none. -/
theorem recounts_needClient {ok : Unit → Session → List Exchange → Prop}
    (hyes : s.connected = true → ok () s xs)
    (hno : s.connected = false → bad Session.notConnected s xs) :
    needClient.Recounts N ok bad s xs := by
  refine recounts_bind (recounts_connected ?_)
  split <;> rename_i hs
  · exact recounts_pure (hyes hs)
  · exact recounts_raise (hno (by simpa using hs))

/-- The way out of a guarded block closes the client, and a failure of the block goes on from there. -/
theorem recounts_leave {a : α} (hx : x s = .done (.ok a, s)) (raised : Option Failure) :
    (leave raised x).Recounts N (fun _ => Closed s) (fun _ => Closed s) s [] := by
  refine recounts_ensuring ?_
  cases raised with
  | none =>
    change (x s).Recounts N _ _ []
    rw [hx]
    exact recounts_close
  | some e => exact recounts_raise recounts_close

/-! ### A program with a client of its own -/

/-- A new session opens a client as `Settings.openClient` does, and has one just when that succeeds. -/
theorem connect_ofSettings (settings : Settings) :
    connect (.ofSettings settings) = settings.openClient.attempt.bind fun r =>
      .done (r, ⟨settings, r.isOk⟩) := by
  change (ofProgram settings.openAnswering (.ofSettings settings)).bind _ =
    (settings.openAnswering.bind fun _ => Settings.sayConnected).attempt.bind _
  rw [ofProgram, Program.bind_assoc, Program.attempt_bind, Program.bind_assoc]
  congr 1
  funext r
  cases r <;> rfl

/-- A program between the opening and the closing of a client is one that a new session guards. -/
theorem guarded_ofSettings (settings : Settings) (p : Program α) :
    (connect >>= fun _ => ensuring (ofProgram p) close) (.ofSettings settings) =
      (settings.openClient.bind fun _ => p.ensuring closeClient).attempt.bind fun r =>
        .done (r, .ofSettings settings) := by
  change (connect (.ofSettings settings)).bind _ = _
  rw [connect_ofSettings, Program.bind_assoc, Program.attempt_bind, Program.bind_assoc]
  congr 1
  funext r
  cases r with
  | error e => rfl
  | ok a =>
    change (ofProgram p _).bind _ = (p.ensuring closeClient).attempt.bind _
    rw [ofProgram, Program.ensuring, Program.bind_assoc, Program.attempt_attempt_bind,
      Program.bind_assoc]
    congr 1
    funext r
    refine congrArg (Program.call .close) (funext fun reply => ?_)
    cases reply <;> cases r <;> rfl

end SessionAct

/-- The use needs the client of the session, or a database of it. -/
def SessionUse.needsClient : SessionUse → Bool
  | .client | .database _ | .command .. => true
  | _ => false

namespace Session

/-- Uses one after the other, whatever each of them gives or raises: the session after them. -/
def uses (s : Session) : List SessionUse → Program Session
  | [] => .done s
  | u :: us => (s.step u).bind fun after => after.2.uses us

/-- So many clients were opened as were closed, and one more if the session has a client. -/
def Accounts (s : Session) (xs : List Exchange) : Prop :=
  xs.countP Exchange.opens = xs.countP Exchange.closes + s.connected.toNat

/-- A use of the session `s` with the exchanges `xs`, which gave or raised `r` and left `s'`. -/
structure Conduct (s : Session) (u : SessionUse) (xs : List Exchange)
    (r : Except Failure SessionReply) (s' : Session) : Prop where
  counts : xs.countP Exchange.opens + s.connected.toNat =
    xs.countP Exchange.closes + s'.connected.toNat
  reuses : u = .connect → s.connected = true → xs = []
  connects : u = .connect → (s'.connected = true ↔ r.isOk = true)
  blames : u = .connect → ∀ e, r = .error e → (∀ x ∈ xs, x.closes → x.reply.isOk) →
    ∃ x ∈ xs, ∃ cause, x.FailsWith cause ∧
      e = .provision cause.kindOf cause.message (some "connect") (some cause)
  denies : u.needsClient = true →
    ((∃ message cause, r = .error (.runtime .state message cause)) ↔ s.connected = false)

variable {s s' : Session} {u : SessionUse} {xs ys : List Exchange} {r : Except Failure SessionReply}

/-- For a use that neither connects nor needs a client, only the clients are counted. -/
theorem Conduct.of_counts (hu : u ≠ .connect) (hneeds : u.needsClient = false)
    (hcounts : xs.countP Exchange.opens + s.connected.toNat =
      xs.countP Exchange.closes + s'.connected.toNat) : s.Conduct u xs r s' where
  counts := hcounts
  reuses := fun h => absurd h hu
  connects := fun h => absurd h hu
  blames := fun h => absurd h hu
  denies := by simp [hneeds]

/-- A use that needs a client, and gives something or meets a failure of the driver, has found one. -/
theorem Conduct.granted (hneeds : u.needsClient = true) (hs : s.connected = true)
    (hcounts : xs.countP Exchange.opens = 0 ∧ xs.countP Exchange.closes = 0)
    (hr : ∀ e, r = .error e → e.FromDriver) : s.Conduct u xs r s where
  counts := by rw [hcounts.1, hcounts.2]
  reuses := by rintro rfl; cases hneeds
  connects := by rintro rfl; cases hneeds
  blames := by rintro rfl; cases hneeds
  denies := by
    intro _
    refine iff_of_false ?_ (by simp [hs])
    rintro ⟨message, cause, rfl⟩
    have hdriver := (hr _ rfl).isDriver
    cases hdriver

/-- Without a client, a use that needs one raises the failure that says so. -/
theorem Conduct.notConnected (hneeds : u.needsClient = true) (hs : s.connected = false) :
    s.Conduct u [] (.error Session.notConnected) s where
  counts := rfl
  reuses := by rintro rfl; cases hneeds
  connects := by rintro rfl; cases hneeds
  blames := by rintro rfl; cases hneeds
  denies := fun _ => iff_of_true ⟨_, _, rfl⟩ hs

/-- A use that closes the client leaves none. -/
theorem Conduct.closed (hu : u ≠ .connect) (hneeds : u.needsClient = false)
    (h : SessionAct.Closed s s' xs) : s.Conduct u xs r s' := by
  obtain ⟨rfl, hopens, hcloses⟩ := h
  exact .of_counts hu hneeds (by simp [hopens, hcloses])

/-! ### One use -/

open SessionAct (recounts_pure recounts_ofProgram recounts_bind recounts_needClient recounts_connect
  recounts_close recounts_leave)

/-- What is said of a use holds of what it gives and of what it raises, and of the session after it. -/
def Conducts (s : Session) (u : SessionUse) : Prop :=
  u.act.Recounts Exchange.FailsByDriver (fun a t ys => s.Conduct u ys (.ok a) t)
    (fun e t ys => s.Conduct u ys (.error e) t) s []

/-- Opening a client gives the session one, or leaves none open and tells the failure of the driver. -/
theorem conducts_connect : s.Conducts .connect := by
  refine recounts_bind ((recounts_connect.and_replies nofun).mono ?_ ?_)
  · rintro _ _ ys ⟨⟨rfl, hends⟩, -⟩
    refine recounts_pure ⟨?_, fun _ hs => by simpa [hs] using hends, fun _ => ?_, nofun, nofun⟩
    · split at hends <;> rename_i hs
      · simp [hends, hs]
      · obtain ⟨uri, options, v, rfl⟩ := hends
        simp [hs]
        rfl
    · simp [Except.isOk, Except.toBool]
  · rintro e _ ys ⟨⟨rfl, hs, ⟨hbalanced, hfailed⟩ | hcut⟩, hdriver⟩
    · refine ⟨by rw [hbalanced.2], by simp [hs], fun _ => ?_, ?_, nofun⟩
      · simp [hs, Except.isOk, Except.toBool]
      · intro _ e' he hclosed
        obtain rfl := Except.error.inj he
        obtain ⟨x, hx, cause, hwith, htold⟩ := hfailed hclosed
        have hcause := (hdriver x hx cause hwith).isDriver
        rw [if_pos hcause, Failure.classify_of_isDriver hcause] at htold
        exact ⟨x, hx, cause, hwith, htold⟩
    · exact absurd hdriver hcut.not_failsByDriver

theorem conducts_client : s.Conducts .client := by
  refine recounts_bind (recounts_needClient (fun hs => ?_) (Conduct.notConnected rfl))
  exact Conduct.granted rfl hs ⟨rfl, rfl⟩ nofun

theorem conducts_database (name : String) : s.Conducts (.database name) := by
  refine recounts_bind (recounts_bind (recounts_needClient (fun hs => ?_) (Conduct.notConnected rfl)))
  refine recounts_ofProgram (Program.recounts_perform
    (fun _ _ => Conduct.granted rfl hs ⟨rfl, rfl⟩ nofun) fun e he => ?_)
  refine Conduct.granted rfl hs ⟨rfl, rfl⟩ fun e' he' => ?_
  exact Except.error.inj he' ▸ he e rfl

theorem conducts_command (name : String) (value : Value) (arguments : Fields) :
    s.Conducts (.command name value arguments) := by
  have hgranted {ys : List Exchange} {e : Failure} (hs : s.connected = true)
      (hcounts : ys.countP Exchange.opens = 0 ∧ ys.countP Exchange.closes = 0) (he : e.FromDriver) :
      s.Conduct (.command name value arguments) ys (.error e) s :=
    .granted rfl hs hcounts fun e' he' => Except.error.inj he' ▸ he
  refine recounts_bind (recounts_bind (recounts_bind
    (recounts_needClient (fun hs => ?_) (Conduct.notConnected rfl))))
  refine recounts_ofProgram (Program.recounts_perform (fun _ _ => ?_)
    fun e he => hgranted hs ⟨rfl, rfl⟩ (he e rfl))
  refine recounts_ofProgram (Program.recounts_perform (fun v _ => ?_)
    fun e he => hgranted hs ⟨rfl, rfl⟩ (he e rfl))
  exact Conduct.granted rfl hs ⟨rfl, rfl⟩ nofun

/-- What closes the client of the session is as is said of it. -/
theorem conducts_of_closed (h : u.act.Recounts Exchange.FailsByDriver (fun _ => SessionAct.Closed s)
    (fun _ => SessionAct.Closed s) s []) (hu : u ≠ .connect) (hneeds : u.needsClient = false) :
    s.Conducts u :=
  h.mono (fun _ _ _ h => Conduct.closed hu hneeds h) fun _ _ _ h => Conduct.closed hu hneeds h

/-- Every use of a session is as is said of it. -/
theorem conducts (s : Session) (u : SessionUse) : s.Conducts u := by
  cases u with
  | connect => exact conducts_connect
  | close => exact conducts_of_closed (recounts_bind recounts_close) nofun rfl
  | client => exact conducts_client
  | database name => exact conducts_database name
  | command name value arguments => exact conducts_command name value arguments
  | settings => exact Conduct.of_counts nofun rfl rfl
  | enter => exact Conduct.of_counts nofun rfl rfl
  | leave raised => exact conducts_of_closed (recounts_leave rfl raised) nofun rfl
  | block raised => exact conducts_of_closed (recounts_leave rfl raised) nofun rfl

/-- A use never fails: it ends with what it gave or raised and with the session after it. -/
theorem recounts_step (s : Session) (u : SessionUse) :
    (s.step u).Recounts Exchange.FailsByDriver (fun after ys => s.Conduct u ys after.1 after.2)
      (fun _ _ => False) [] := by
  refine Program.Recounts.mono (conducts s u) ?_ fun _ _ h => h
  rintro ⟨e | a, t⟩ ys hends
  · exact hends
  · exact hends

/-! ### Any uses -/

theorem Accounts.extend (h : s.Accounts xs) (hu : s.Conduct u ys r s') : s'.Accounts (xs ++ ys) := by
  have hcounts := hu.counts
  unfold Accounts at h ⊢
  rw [List.countP_append, List.countP_append]
  omega

/-- Uses one after the other keep the account of the clients. -/
theorem recounts_uses (us : List SessionUse) (h : s.Accounts xs) :
    (s.uses us).Recounts Exchange.FailsByDriver (fun s' ys => s'.Accounts ys) (fun _ _ => False) xs := by
  induction us generalizing s xs with
  | nil => exact h
  | cons u us ih =>
    have hstep := (recounts_step s u).after xs
    rw [List.append_nil] at hstep
    refine Program.recounts_bind (hstep.mono ?_ fun _ _ h => h.choose_spec.2)
    rintro after _ ⟨ys, rfl, hconduct⟩
    exact ih (h.extend hconduct)

/-- **The life cycle of a session.**  Whatever failures of the driver the calls of a new session meet: after
any uses of it, as many clients are open as it says, and so it stays with the next use, which reuses a
client that is open, connects the session just when it succeeds, tells the failure of the driver when it
does not connect and could close, and says that there is no client just when there is none. -/
theorem life_cycle {settings : Settings} {us : List SessionUse} {before after : Server}
    {r : Except Failure Session}
    (h : Program.Transcript .driver ((ofSettings settings).uses us) before xs r after) :
    ∃ s, r = .ok s ∧ s.Accounts xs ∧ ∀ u ys r' later,
      Program.Transcript .driver (s.step u) after ys r' later →
        ∃ a s', r' = .ok (a, s') ∧ s'.Accounts (xs ++ ys) ∧ s.Conduct u ys a s' := by
  have hnew : (ofSettings settings).Accounts [] := rfl
  have huses := (recounts_uses us hnew).transcript Weather.gives_driver trivial h
  cases r with
  | error e => exact huses.elim
  | ok s =>
    refine ⟨s, rfl, huses, fun u ys r' later hstep => ?_⟩
    have hconduct := (recounts_step s u).transcript Weather.gives_driver trivial hstep
    cases r' with
    | error e => exact hconduct.elim
    | ok result => exact ⟨result.1, result.2, rfl, Accounts.extend huses hconduct, hconduct⟩

/-- The first sign of life is lost, and the client that waited for it does not close. -/
def outage : List Fault :=
  [⟨.command, some "ping", 0, 1, .ofDriver .autoReconnect "" none none none⟩,
    ⟨.close, none, 0, 1, .ofDriver .autoReconnect "" none none none⟩]

/-- A session that connects at the second attempt. -/
def secondAttempt : Program Session := (ofSettings SeedSpec.bareSettings).uses [.connect, .connect, .client]

/-- It has been given two clients, and one is closed. -/
theorem life_cycle_outage :
    let xs := secondAttempt.exchanges .clear .empty outage
    let end? := secondAttempt.run .clear .empty outage
    xs.countP Exchange.opens = 2 ∧ xs.countP Exchange.closes = 1 ∧
      ∃ s, end?.result = .ok s ∧ s.Accounts xs ∧ ∀ u ys r' later,
        Program.Transcript .driver (s.step u) end?.server ys r' later →
          ∃ a s', r' = .ok (a, s') ∧ s'.Accounts (xs ++ ys) ∧ s.Conduct u ys a s' := by
  have hlost : (Failure.ofDriver .autoReconnect "" none none none).FromDriver :=
    Failure.fromDriver_ofDriver ..
  have hdriver : ∀ f ∈ outage, ∀ c, Weather.driver.strikes c f.failure := by
    intro f hf _
    rcases List.mem_pair.1 hf with rfl | rfl <;> exact hlost
  have htranscript := Program.transcript_run (show Weather.driver.sights .clear from trivial)
    secondAttempt .empty outage hdriver
  exact ⟨by decide +kernel, by decide +kernel, life_cycle htranscript⟩

end Session

end Bringup
