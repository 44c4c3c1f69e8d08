import Bringup.Proofs.Program.Assurance

/-!
# Two programs at one server

* `Program.Race` : two programs make their calls by turns, in any order, each call at once and as a whole;
* `Program.turns`, `Program.race_turns` : to take turns call by call is one of the orders;
* `Program.Assures.race` : what two programs assure in a setting whose others may do what they do, holds
  of their race.
-/

namespace Bringup

namespace Program

variable {α β : Type}

/-- Two programs make their calls by turns: how each ends, and the server after both.  Nothing else
happens at the server, and every reader sees everything. -/
inductive Race : Program α → Program β → Server → Except Failure α → Except Failure β → Server → Prop
  | ended {a : Except Failure α} {b : Except Failure β} {s : Server} :
    Race (ofExcept a) (ofExcept b) s a b s
  | firstSays {m : Remark} {p : Program α} {q : Program β} {s t : Server} {a : Except Failure α}
      {b : Except Failure β} : Race p q s a b t → Race (.remark m p) q s a b t
  | secondSays {m : Remark} {p : Program α} {q : Program β} {s t : Server} {a : Except Failure α}
      {b : Except Failure β} : Race p q s a b t → Race p (.remark m q) s a b t
  | firstCalls {c : Call} {k : Except Failure c.Reply → Program α} {q : Program β} {s t : Server}
      {a : Except Failure α} {b : Except Failure β} :
    Race (k (s.answer .clear c).1) q (s.answer .clear c).2 a b t → Race (.call c k) q s a b t
  | secondCalls {c : Call} {p : Program α} {k : Except Failure c.Reply → Program β} {s t : Server}
      {a : Except Failure α} {b : Except Failure β} :
    Race p (k (s.answer .clear c).1) (s.answer .clear c).2 a b t → Race p (.call c k) s a b t

/-- When one program has ended, the other goes on alone. -/
theorem race_of_ended (a : Except Failure α) (q : Program β) (s : Server) :
    Race (ofExcept a) q s a (q.run .clear s []).result (q.run .clear s []).server := by
  induction q generalizing s with
  | done b => exact Race.ended (b := .ok b)
  | fail e => exact Race.ended (b := .error e)
  | remark m q ih => exact .secondSays (ih s)
  | call c k ih => exact .secondCalls (ih _ _)

/-- A program after its next call, if it makes one. -/
def advance : Program α → Server → Program α × Server
  | .remark _ p, s => p.advance s
  | .call c k, s => (k (s.answer .clear c).1, (s.answer .clear c).2)
  | p, s => (p, s)

/-- How two programs end that take turns call by call, and the server after both.  When the first has
ended, the second goes on alone. -/
def turns : Program α → Program β → Server → Except Failure α × Except Failure β × Server
  | .done a, q, s => (.ok a, (q.run .clear s []).result, (q.run .clear s []).server)
  | .fail e, q, s => (.error e, (q.run .clear s []).result, (q.run .clear s []).server)
  | .remark _ p, q, s => p.turns q s
  | .call c k, q, s =>
    let next := q.advance (s.answer .clear c).2
    (k (s.answer .clear c).1).turns next.1 next.2

theorem race_of_advance {p : Program α} {q : Program β} {s t : Server} {a : Except Failure α}
    {b : Except Failure β} (h : Race p (q.advance s).1 (q.advance s).2 a b t) :
    Race p q s a b t := by
  induction q with
  | done b => exact h
  | fail e => exact h
  | remark m q ih => exact .secondSays (ih h)
  | call c k => exact .secondCalls h

/-- To take turns is one of the orders. -/
theorem race_turns (p : Program α) (q : Program β) (s : Server) :
    Race p q s (p.turns q s).1 (p.turns q s).2.1 (p.turns q s).2.2 := by
  induction p generalizing q s with
  | done a => exact race_of_ended (.ok a) q s
  | fail e => exact race_of_ended (.error e) q s
  | remark m p ih => exact .firstSays (ih q s)
  | call c k ih => exact .firstCalls (race_of_advance (ih _ _ _))

/-! ### What holds of a race -/

variable {C : Setting} {ok : α → Server → Prop} {bad : Failure → Server → Prop}
  {ok' : β → Server → Prop} {bad' : Failure → Server → Prop}

/-- What others do not take away from how a program ends. -/
def Stable (C : Setting) (ok : α → Server → Prop) (bad : Failure → Server → Prop) : Prop :=
  ∀ r t u, C.others t u → EndsAs ok bad r t → EndsAs ok bad r u

/-- What a program assures it still assures after something that others do. -/
theorem Assures.of_others {p : Program α} {s t : Server} (h : p.Assures C ok bad s)
    (stable : Stable C ok bad) (trans : ∀ {t u w}, C.others t u → C.others u w → C.others t w)
    (ht : C.others s t) : p.Assures C ok bad t := by
  induction p with
  | done a => exact stable (.ok a) s t ht h
  | fail e => exact stable (.error e) s t ht h
  | remark m p ih => exact ih h
  | call c k ih => exact fun u hu => h u (trans ht hu)

theorem Assures.ends {r : Except Failure α} {s : Server} (h : (ofExcept r).Assures C ok bad s) :
    EndsAs ok bad r s := by
  cases r with
  | ok a => exact h
  | error e => exact h

/-- What two programs assure holds of their race, if each only does what the other leaves to others. -/
theorem Assures.race {p : Program α} {q : Program β} {s t : Server} {a : Except Failure α}
    {b : Except Failure β} (hp : p.Assures C ok bad s) (hq : q.Assures C ok' bad' s)
    (h : Race p q s a b t) (clear : C.sights .clear) (refl : ∀ u, C.others u u)
    (trans : ∀ {t u w}, C.others t u → C.others u w → C.others t w)
    (own : ∀ {c t u}, C.own c t u → C.others t u) (stable : Stable C ok bad)
    (stable' : Stable C ok' bad') : EndsAs ok bad a t ∧ EndsAs ok' bad' b t := by
  -- a call of the one is something that others do, as far as the other is concerned
  induction h with
  | ended => exact ⟨hp.ends, hq.ends⟩
  | firstSays _ ih => exact ih hp hq
  | secondSays _ ih => exact ih hp hq
  | firstCalls _ ih =>
    obtain ⟨hown, hk⟩ := (hp _ (refl _)).2 .clear clear
    exact ih hk (hq.of_others stable' trans (own hown))
  | secondCalls _ ih =>
    obtain ⟨hown, hk⟩ := (hq _ (refl _)).2 .clear clear
    exact ih (hp.of_others stable trans (own hown)) hk

end Program

end Bringup
