import Bringup.Proofs.Server.Driver
import Bringup.Session

/-!
# The opening of a client

* `Exchange.opens`, `Exchange.closes` : a client was opened; a client was told to close;
* `OpeningCutShort` : between the opening of the client and the reply to its sign of life, a failure came
  that is none of the driver;
* `Settings.recounts_openAnswering` : a client is opened, or none is left open and the failure says why, or
  the opening is cut short;
* `Settings.recounts_openClient` : how many clients are opened and closed on the way.
-/

namespace Bringup

/-- A client was opened. -/
def Exchange.opens (x : Exchange) : Bool := x.call.kind == .connect && x.reply.isOk

/-- A client was told to close, whether that succeeded or not. -/
def Exchange.closes (x : Exchange) : Bool := x.call.kind == .close

/-- The exchange failed with `e`. -/
def Exchange.FailsWith (x : Exchange) (e : Failure) : Prop := x.reply = .error e

/-- A failure that is none of the driver came after a client was opened: at the look-up of the database of
users, or in place of a sign of life. -/
inductive OpeningCutShort : List Exchange → Prop
  | lookUp {uri : String} {options : Fields} {e : Failure} : e.isDriver = false →
    OpeningCutShort [⟨.connect uri options, .ok ()⟩, ⟨.database adminDatabase, .error e⟩]
  | ping {uri : String} {options : Fields} {e : Failure} : e.isDriver = false →
    OpeningCutShort [⟨.connect uri options, .ok ()⟩, ⟨.database adminDatabase, .ok ()⟩,
      ⟨.command adminDatabase "ping" (.int 1) [], .error e⟩]

/-- One client was opened at most, and as many were closed as were opened. -/
def Balanced (xs : List Exchange) : Prop :=
  xs.countP Exchange.opens ≤ 1 ∧ xs.countP Exchange.closes = xs.countP Exchange.opens

variable {xs : List Exchange}

theorem OpeningCutShort.counts (h : OpeningCutShort xs) :
    xs.countP Exchange.opens = 1 ∧ xs.countP Exchange.closes = 0 := by
  cases h <;> exact ⟨rfl, rfl⟩

/-- Where the driver alone fails, no opening is cut short. -/
theorem OpeningCutShort.not_failsByDriver (h : OpeningCutShort xs) :
    ¬∀ x ∈ xs, x.FailsByDriver := by
  intro hdriver
  cases h with
  | lookUp he =>
    have hfrom := hdriver _ (List.mem_cons_of_mem _ (List.mem_singleton_self _)) _ rfl
    simp [hfrom.isDriver] at he
  | ping he =>
    have hfrom :=
      hdriver _ (List.mem_cons_of_mem _ (List.mem_cons_of_mem _ (List.mem_singleton_self _))) _ rfl
    simp [hfrom.isDriver] at he

namespace Settings

/-- A client was opened and has given a sign of life. -/
def Opened (xs : List Exchange) : Prop :=
  ∃ uri options v, xs = [⟨.connect uri options, .ok ()⟩, ⟨.database adminDatabase, .ok ()⟩,
    ⟨.command adminDatabase "ping" (.int 1) [], .ok v⟩]

/-- The opening failed with `e`, which is a failure of one of the calls: one of the driver is told as the
failure of the step, with itself as the cause. -/
def OpeningFailed (e : Failure) (xs : List Exchange) : Prop :=
  ∃ x ∈ xs, ∃ cause, x.FailsWith cause ∧
    e = if cause.isDriver then cause.classify (some connectStep) else cause

/-- No client is left open, and the failure says why none was opened unless the client would not close. -/
def Unopened (e : Failure) (xs : List Exchange) : Prop :=
  Balanced xs ∧ ((∀ x ∈ xs, x.closes → x.reply.isOk) → OpeningFailed e xs)

/-- A client was opened, and then the look-up of the database of users failed with `e`, or the sign of life
did. -/
inductive PingFailed (e : Failure) : List Exchange → Prop
  | lookUp {uri : String} {options : Fields} :
    PingFailed e [⟨.connect uri options, .ok ()⟩, ⟨.database adminDatabase, .error e⟩]
  | ping {uri : String} {options : Fields} :
    PingFailed e [⟨.connect uri options, .ok ()⟩, ⟨.database adminDatabase, .ok ()⟩,
      ⟨.command adminDatabase "ping" (.int 1) [], .error e⟩]

namespace PingFailed

variable {e : Failure}

theorem cutShort (h : PingFailed e xs) (he : e.isDriver = false) : OpeningCutShort xs := by
  cases h with
  | lookUp => exact .lookUp he
  | ping => exact .ping he

theorem balanced_close (h : PingFailed e xs) (reply : Except Failure Unit) :
    Balanced (xs ++ [⟨.close, reply⟩]) := by
  cases h <;> exact ⟨Nat.le_refl 1, rfl⟩

theorem exists_failsWith (h : PingFailed e xs) : ∃ x ∈ xs, x.FailsWith e := by
  cases h with
  | lookUp => exact ⟨⟨.database adminDatabase, .error e⟩, by simp, rfl⟩
  | ping => exact ⟨⟨.command adminDatabase "ping" (.int 1) [], .error e⟩, by simp, rfl⟩

/-- A failure of the driver is told as that of the step, whatever becomes of closing the client. -/
theorem openingFailed_close (h : PingFailed e xs) (hdriver : e.isDriver = true)
    (reply : Except Failure Unit) :
    OpeningFailed (e.classify (some connectStep)) (xs ++ [⟨.close, reply⟩]) := by
  obtain ⟨x, hx, hwith⟩ := h.exists_failsWith
  exact ⟨x, List.mem_append_left _ hx, e, hwith, (if_pos hdriver).symm⟩

end PingFailed

/-- Where no client can be opened none is left open, and the failure says why. -/
theorem unopened_connect {uri : String} {options : Fields} {e : Failure} :
    Unopened (if e.isDriver then e.classify (some connectStep) else e)
      [⟨.connect uri options, .error e⟩] :=
  ⟨⟨Nat.zero_le 1, rfl⟩, fun _ => ⟨_, List.mem_singleton_self _, e, rfl, rfl⟩⟩

variable {N : Exchange → Prop}

/-- After the opening of a client the sign of life is given, or it fails. -/
theorem recounts_ping {uri : String} {options : Fields} :
    ping.Recounts N (fun _ ys => Opened ys) PingFailed [⟨.connect uri options, .ok ()⟩] := by
  refine Program.recounts_bind (Program.recounts_perform (fun _ _ => ?_) fun _ _ => .lookUp)
  exact Program.recounts_bind
    (Program.recounts_perform (fun v _ => ⟨_, _, v, rfl⟩) fun _ _ => .ping)

/-- A client is opened, or none is left open, or its opening is cut short. -/
theorem recounts_openAnswering (settings : Settings) : settings.openAnswering.Recounts N
    (fun _ ys => Opened ys) (fun e ys => Unopened e ys ∨ OpeningCutShort ys) [] := by
  let connect : Call := .connect settings.connectionUri settings.clientOptions
  have hconnect : (Program.perform connect).Recounts N (fun _ ys => ys = [⟨connect, .ok ()⟩])
      (fun e ys => ys = [⟨connect, .error e⟩]) [] :=
    Program.recounts_perform (fun _ _ => rfl) fun _ _ => rfl
  refine Program.recounts_bind (Program.recounts_say ?_)
  refine (hconnect.rescue fun e ys hys => ?_).seq fun _ ys hys => ?_
  -- no client was opened
  · have hunopened : Unopened (if e.isDriver then e.classify (some connectStep) else e) ys := by
      rw [hys]
      exact unopened_connect
    split <;> rename_i hdriver
    · rw [if_pos hdriver] at hunopened
      exact .inl hunopened
    · rw [if_neg hdriver] at hunopened
      exact .inl hunopened
  rw [hys]
  refine recounts_ping.rescue fun e zs hzs => ?_
  split <;> rename_i hdriver
  -- a failure of the driver: the client is closed
  · refine Program.recounts_bind (Program.recounts_perform (fun _ _ => ?_) fun e' _ => ?_)
    · exact .inl ⟨hzs.balanced_close _, fun _ => hzs.openingFailed_close hdriver _⟩
    · refine .inl ⟨hzs.balanced_close _, fun hall => ?_⟩
      exact absurd (hall ⟨.close, .error e'⟩ (by simp) rfl) nofun
  · exact .inr (hzs.cutShort (by simpa using hdriver))

/-- As many clients are opened as are closed, unless the opening succeeds or is cut short. -/
theorem recounts_openClient (settings : Settings) : settings.openClient.Recounts N
    (fun _ ys => Opened ys) (fun _ ys => Balanced ys ∨ OpeningCutShort ys) [] := by
  refine Program.Recounts.seq ?_ fun _ _ hopened => Program.recounts_say hopened
  exact settings.recounts_openAnswering.mono (fun _ _ h => h) fun _ _ h => h.imp_left And.left

end Settings

end Bringup
