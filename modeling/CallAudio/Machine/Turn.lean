/-
  The route machine within one event.

  A `Turn` is the machine so far, the record so far, and the commands that the headset
  received so far.  The handlers of events are made of a few effects: `notify`, `blame`,
  `moveTo`, `consumeTimer`, `cancelTimer`, `arm` and `issue`.
-/
import CallAudio.Machine.Basic
import CallAudio.Transition

namespace CallAudio

/-- The route machine within one event. -/
structure Turn where
  /-- The machine so far. -/
  machine : Machine
  /-- The record so far. -/
  transition : Transition
  /-- The commands that the headset received during this event, in order. -/
  issued : List Command := []
deriving DecidableEq, Inhabited

namespace Turn

/-- The start of an event. -/
def start (machine : Machine) (event : EventKind) : Turn where
  machine := machine
  transition := .start event machine.route

/-- Has the listener notified. -/
def notify (turn : Turn) (notice : Notice) : Turn :=
  { turn with transition := turn.transition.notify notice }

/-- Records a fault, unless an earlier one is recorded. -/
def blame (turn : Turn) (fault : Fault) : Turn :=
  { turn with transition := turn.transition.blame fault }

/-- Changes the route. -/
def moveTo (turn : Turn) (route : Route) : Turn :=
  { turn with machine := { turn.machine with route := route } }

/-- Forgets the outstanding timer. -/
def consumeTimer (turn : Turn) : Turn :=
  { turn with machine := { turn.machine with pending := none } }

/-- Drops the outstanding timer, if there is one. -/
def cancelTimer (turn : Turn) : Turn :=
  match turn.machine.pending with
  | none => turn
  | some _ =>
    { turn.consumeTimer with transition := { turn.transition with timer := .cancel } }

/-- Arms a timer of a new generation. -/
def arm (turn : Turn) (kind : TimerKind) (device : Device) (attempt : Nat) : Turn :=
  let (machine, request) := turn.machine.arm kind device attempt
  { turn with
    machine := machine
    transition := { turn.transition with timer := .arm request } }

/-- Gives the headset a command. -/
def issue (turn : Turn) (command : Command) : Turn :=
  { turn with
    transition := { turn.transition with command := some command }
    issued := turn.issued ++ [command] }

end Turn

end CallAudio
