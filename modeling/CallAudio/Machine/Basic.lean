/-
  The state of the route machine between two events.

  At most one timer is outstanding.  Its expiry comes back as an event, and is discarded
  unless its kind and generation are those of the outstanding timer.
-/
import CallAudio.Route
import CallAudio.Timeouts

namespace CallAudio

/-- The outstanding timer, and the attempt it belongs to. -/
structure PendingTimer where
  /-- The generation its expiry has to show. -/
  generation : UInt64
  /-- What it waits for. -/
  kind : TimerKind
  /-- The device that is being connected. -/
  device : Device
  /-- How many retries were spent on the device. -/
  attempt : Nat
deriving DecidableEq, Inhabited

/-- The route machine between two events. -/
structure Machine where
  /-- The timing parameters, fixed for the machine's life. -/
  timeouts : Timeouts
  /-- Where call audio goes. -/
  route : Route := .off
  /-- The outstanding timer. -/
  pending : Option PendingTimer := none
  /-- The generation of the timer armed last. -/
  generation : UInt64 := 0
deriving DecidableEq, Inhabited

namespace Machine

/-- Arms a timer of a new generation in place of an outstanding one. -/
def arm (machine : Machine) (kind : TimerKind) (device : Device) (attempt : Nat) :
    Machine × TimerRequest :=
  let generation := machine.generation + 1
  ({ machine with
      generation := generation
      pending := some { generation, kind, device, attempt } },
    { kind, generation, delay := machine.timeouts.delay kind })

/-- How many more expiries the outstanding timer can lead to, itself included: each
    attempt has a confirmation, each retry has a wait before it. -/
def expiriesAhead (machine : Machine) : Nat :=
  match machine.pending with
  | none => 0
  | some timer =>
    let retriesLeft := machine.timeouts.retries - timer.attempt
    match timer.kind with
    | .confirmation => 2 * retriesLeft + 1
    | .retry => 2 * retriesLeft + 2

end Machine

end CallAudio
