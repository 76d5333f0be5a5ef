/-
  What one event led to.

  * `Command`: an order to the headset;
  * `Transition`: the record of one event, from the route before to the route after.
-/
import CallAudio.Event
import CallAudio.Fault
import CallAudio.Notice
import CallAudio.Route

namespace CallAudio

/-- An order to the headset. -/
inductive Command where
  /-- Open audio to the device. -/
  | connectAudio (device : Device)
  /-- Close audio. -/
  | disconnectAudio
deriving DecidableEq, Inhabited

/-- The record of one event. -/
structure Transition where
  /-- The kind of event. -/
  event : EventKind
  /-- The route before. -/
  source : Route
  /-- The route after. -/
  target : Route
  /-- The command given to the headset, if any. -/
  command : Option Command
  /-- The notices due to the listener, in order. -/
  notices : List Notice
  /-- What becomes of the outstanding timer. -/
  timer : TimerAction
  /-- The first fault met, if any. -/
  fault : Option Fault
deriving DecidableEq, Inhabited

namespace Transition

/-- The record of an event of which nothing has come yet. -/
def start (event : EventKind) (route : Route) : Transition where
  event := event
  source := route
  target := route
  command := none
  notices := []
  timer := .keep
  fault := none

/-- Appends a notice. -/
def notify (transition : Transition) (notice : Notice) : Transition :=
  { transition with notices := transition.notices ++ [notice] }

/-- Records a fault, unless an earlier one is recorded. -/
def blame (transition : Transition) (fault : Fault) : Transition :=
  { transition with fault := transition.fault <|> some fault }

/-- Whether the route changed. -/
def changed (transition : Transition) : Bool := transition.source != transition.target

end Transition

end CallAudio
