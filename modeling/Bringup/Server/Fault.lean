import Bringup.Server.Call

/-!
# Faults

* `Fault` : a failure that calls of some kind meet, for a while;
* `Fault.strike` : the failure that a call meets, and the faults that are left.

The faults are asked in their order.  One that fits a call first lets some pass, then makes some fail,
and then does nothing.
-/

namespace Bringup

/-- A failure that calls of one kind meet: `after` of them are let pass, the next `times` fail.  A
target restricts it to calls that name this object. -/
structure Fault where
  kind : CallKind
  target : Option String
  after : Nat
  times : Nat
  failure : Failure

namespace Fault

/-- Whether the fault is about a call. -/
def fits (f : Fault) (c : Call) : Bool :=
  f.kind = c.kind && (f.target.isNone || f.target == c.target?)

/-- The failure that a call meets, if any, and the faults as they are after it. -/
def strike (c : Call) : List Fault → Option Failure × List Fault
  | [] => (none, [])
  | f :: rest =>
    let pass (f : Fault) : Option Failure × List Fault :=
      ((strike c rest).1, f :: (strike c rest).2)
    if f.fits c then
      match f.after, f.times with
      | n + 1, _ => pass { f with after := n }
      | 0, n + 1 => (some f.failure, { f with times := n } :: rest)
      | 0, 0 => pass f
    else pass f

end Fault

end Bringup
