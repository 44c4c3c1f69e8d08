import Bringup.Proofs.CommandLine.Exit
import Bringup.Proofs.Session.Opening

/-!
# Clients that are opened and closed

* `Invocation.client_closed` : a run opens one client at most, and closes it once, unless its opening was cut
  short;
* `Invocation.client_left_open` : then the client stays open.

The session looks after its client only from the end of `Settings.openClient` on, and the way out there is for
failures of the driver.
-/

namespace Bringup

variable {xs ys : List Exchange}

/-- Exchanges within a session open no client and close none. -/
theorem countP_inSession (h : ∀ x ∈ xs, x.call.InSession) :
    xs.countP Exchange.opens = 0 ∧ xs.countP Exchange.closes = 0 := by
  rw [List.countP_eq_zero, List.countP_eq_zero]
  constructor
  · intro x hx hopens
    simp only [Exchange.opens, Bool.and_eq_true, beq_iff_eq] at hopens
    exact (h x hx).1 hopens.1
  · intro x hx hcloses
    exact (h x hx).2 (beq_iff_eq.1 hcloses)

namespace Program

variable {α : Type} {N : Exchange → Prop}

/-- A program that makes calls of some kind only adds exchanges about such calls. -/
theorem Within.recounts {R : Remark → Prop} {P : Call → Prop} {p : Program α} (h : p.Within R P)
    (xs : List Exchange) :
    p.Recounts N (fun _ ys => ∃ zs, ys = xs ++ zs ∧ ∀ z ∈ zs, P z.call)
      (fun _ ys => ∃ zs, ys = xs ++ zs ∧ ∀ z ∈ zs, P z.call) xs := by
  -- the exchanges so far are those at the start and others about such calls
  suffices key : ∀ zs, (∀ z ∈ zs, P z.call) →
      p.Recounts N (fun _ ys => ∃ zs, ys = xs ++ zs ∧ ∀ z ∈ zs, P z.call)
        (fun _ ys => ∃ zs, ys = xs ++ zs ∧ ∀ z ∈ zs, P z.call) (xs ++ zs) by
    have hstart := key [] nofun
    rwa [List.append_nil] at hstart
  induction p with
  | done a => exact fun zs hzs => ⟨zs, rfl, hzs⟩
  | fail e => exact fun zs hzs => ⟨zs, rfl, hzs⟩
  | remark m p ih => exact ih h.2
  | call c k ih =>
    intro zs hzs reply _
    rw [List.append_assoc]
    refine ih reply (h.2 reply) _ fun z hz => ?_
    rcases List.mem_append.1 hz with hz | hz
    · exact hzs z hz
    · obtain rfl := List.mem_singleton.1 hz
      exact h.1

end Program

/-! ### Runs -/

namespace Options

variable {o : Options} {settings : Settings} {spec : SeedSpec} {host : Host} {now : Instant}
  {N : Exchange → Prop}

/-- However the work on an open client ends, the client is closed. -/
theorem recounts_guarded (h : Settings.Opened xs) :
    ((o.work settings spec now).ensuring closeClient).Recounts N (fun _ ys => Balanced ys)
      (fun _ ys => Balanced ys) xs := by
  have hwork : (o.work settings spec now).attempt.Recounts N
      (fun _ ys => ∃ zs, ys = xs ++ zs ∧ ∀ z ∈ zs, z.call.InSession) (fun _ ys => Balanced ys) xs :=
    Program.recounts_attempt (within_work.recounts xs)
  refine hwork.seq fun r ys hys => ?_
  obtain ⟨zs, rfl, hzs⟩ := hys
  have hclosed (reply : Except Failure Unit) : Balanced (xs ++ zs ++ [⟨.close, reply⟩]) := by
    obtain ⟨uri, options, v, rfl⟩ := h
    obtain ⟨hopens, hcloses⟩ := countP_inSession hzs
    unfold Balanced
    simp only [List.countP_append, hopens, hcloses]
    exact ⟨Nat.le_refl 1, rfl⟩
  refine Program.recounts_bind (Program.recounts_bind (Program.recounts_perform
    (fun _ _ => Program.recounts_say ?_) fun _ _ => hclosed _))
  cases r with
  | ok sound => exact hclosed _
  | error e => exact hclosed _

/-- A run closes the client that it has opened, unless its opening was cut short. -/
theorem recounts_run : (o.run settings host).Recounts N (fun _ ys => Balanced ys)
    (fun _ ys => Balanced ys ∨ OpeningCutShort ys) [] := by
  refine Program.recounts_bind ?_
  cases o.spec settings host with
  | error e => exact .inl ⟨Nat.zero_le 1, rfl⟩
  | ok spec =>
    refine (settings.recounts_openClient).seq fun _ xs hxs => ?_
    refine ((recounts_guarded hxs).mono (fun _ _ h => h) fun _ _ h => .inl h).seq fun sound ys hys => ?_
    cases sound with
    | true => exact hys
    | false => exact hys

theorem recounts_main : (o.main settings host).Recounts N
    (fun _ ys => Balanced ys ∨ OpeningCutShort ys) (fun _ ys => Balanced ys ∨ OpeningCutShort ys) [] := by
  refine Program.recounts_bind (Program.recounts_say (Program.recounts_bind (Program.recounts_attempt
    (recounts_run.mono (fun code ys h => .inl h) fun e ys h => ?_))))
  change (conclude e).Recounts N _ _ ys
  unfold conclude
  split <;> exact h

end Options

/-! ### Command lines -/

/-- Any reply may come. -/
theorem Weather.gives_anything : Weather.any.Gives (fun _ => True) (fun _ => True) :=
  ⟨fun _ _ _ => trivial, fun _ _ _ _ _ => ⟨trivial, trivial⟩⟩

namespace Invocation

variable {words : List String} {host : Host} {p : Program ExitCode} {s t : Server}
  {r : Except Failure ExitCode}

/-- Where the settings are refused, no client is opened. -/
theorem recounts_refuse (c : Complaint) : (refuse c).Recounts (fun _ => True)
    (fun _ ys => Balanced ys ∨ OpeningCutShort ys) (fun _ ys => Balanced ys ∨ OpeningCutShort ys) [] :=
  .inl ⟨Nat.zero_le 1, rfl⟩

/-- **Closing the clients.**  Whatever befalls the calls of a run: it opens one client at most, and the
clients that it has opened it closes once each, unless their opening was cut short by a failure that is none
of the driver. -/
theorem client_closed (hp : (ofWords words host).program? = some p)
    (h : Program.Transcript .any p s xs r t) :
    xs.countP Exchange.opens ≤ 1 ∧
      (xs.countP Exchange.closes = xs.countP Exchange.opens ↔ ¬OpeningCutShort xs) := by
  have hends : Balanced xs ∨ OpeningCutShort xs := by
    obtain ⟨o, -, hcase⟩ := exists_of_program? hp
    rcases hcase with ⟨c, -, rfl⟩ | ⟨settings, -, rfl⟩
    · have htold := (recounts_refuse c).transcript Weather.gives_anything trivial h
      cases r <;> exact htold
    · have htold := Options.recounts_main.transcript Weather.gives_anything trivial h
      cases r <;> exact htold
  rcases hends with ⟨hone, hclosed⟩ | hcut
  · refine ⟨hone, iff_of_true hclosed fun hcut => ?_⟩
    obtain ⟨hopens, hcloses⟩ := hcut.counts
    omega
  · obtain ⟨hopens, hcloses⟩ := hcut.counts
    refine ⟨hopens.le, iff_of_false (fun heq => ?_) fun hno => hno hcut⟩
    omega

/-- A fault of the driver in place of a sign of life, when a client is open. -/
def lostPing : Fault := ⟨.command, some "ping", 0, 1, .ofDriver .autoReconnect "" none none none⟩

theorem client_closed_lostPing :
    let xs := verifyingRun.exchanges .clear .empty [lostPing]
    xs.countP Exchange.opens = 1 ∧
      (xs.countP Exchange.closes = xs.countP Exchange.opens ↔ ¬OpeningCutShort xs) := by
  intro xs
  have hp : (ofWords ["--verify"] bareHost).program? = some verifyingRun := rfl
  have htranscript := Program.transcript_run (show Weather.any.sights .clear from trivial) verifyingRun
    .empty [lostPing] fun _ _ _ => trivial
  exact ⟨by decide +kernel, (client_closed hp htranscript).2⟩

/-- The user interrupts the run in place of a sign of life. -/
def interruptedPing : Fault := ⟨.command, some "ping", 0, 1, .ofRuntime .interrupt ""⟩

/-- A client that was opened may stay open: an interruption during its opening ends the run. -/
theorem client_left_open : ¬∀ (words : List String) (host : Host) (p : Program ExitCode) (s t : Server)
    (xs : List Exchange) (r : Except Failure ExitCode),
      (ofWords words host).program? = some p → Program.Transcript .any p s xs r t →
        xs.countP Exchange.closes = xs.countP Exchange.opens := by
  intro h
  have htranscript := Program.transcript_run (show Weather.any.sights .clear from trivial) verifyingRun
    .empty [interruptedPing] fun _ _ _ => trivial
  have hclosed := h ["--verify"] bareHost verifyingRun _ _ _ _ rfl htranscript
  have hcounts : (verifyingRun.exchanges .clear .empty [interruptedPing]).countP Exchange.opens = 1 ∧
      (verifyingRun.exchanges .clear .empty [interruptedPing]).countP Exchange.closes = 0 := by
    decide +kernel
  omega

end Invocation

end Bringup
