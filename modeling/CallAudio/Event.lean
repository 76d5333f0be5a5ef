/-
  Inputs of the route machine.

  Requests come from call control, device and audio reports from the headset stack, and
  timer expiries from the timers the machine asked for.  An `EventKind` is an event
  without its device or generation; it is what a report names the event by.
-/
import CallAudio.Device
import CallAudio.Timer

namespace CallAudio

/-- An input of the route machine. -/
inductive Event where
  /-- Bring call audio to a hands-free device, to the named one if there is a name. -/
  | connect (requested : Option Device)
  /-- Take call audio off the hands-free devices. -/
  | disconnect
  /-- A device connected. -/
  | deviceAdded (device : Device)
  /-- A device disconnected. -/
  | deviceLost (device : Device)
  /-- The stack confirms audio on a device. -/
  | audioOn (device : Device)
  /-- The stack dropped audio on a device that stays connected. -/
  | audioLost (device : Device)
  /-- A timer expired. -/
  | expired (kind : TimerKind) (generation : UInt64)
deriving DecidableEq, Inhabited

/-- An event without its device or generation. -/
inductive EventKind where
  | connect
  | disconnect
  | deviceAdded
  | deviceLost
  | audioOn
  | audioLost
  | expired (kind : TimerKind)
deriving DecidableEq, Inhabited

/-- The name of a kind of event. -/
def EventKind.name : EventKind → String
  | connect => "connect_hfp"
  | disconnect => "disconnect_hfp"
  | deviceAdded => "device_added"
  | deviceLost => "device_lost"
  | audioOn => "hfp_audio_on"
  | audioLost => "hfp_audio_lost"
  | expired kind => kind.name

namespace Event

/-- The kind of an event. -/
def kind : Event → EventKind
  | connect _ => .connect
  | disconnect => .disconnect
  | deviceAdded _ => .deviceAdded
  | deviceLost _ => .deviceLost
  | audioOn _ => .audioOn
  | audioLost _ => .audioLost
  | expired kind _ => .expired kind

/-- The name of an event. -/
def name (event : Event) : String := event.kind.name

/-- Whether the event comes from a timer and not from a caller. -/
def isTimer : Event → Bool
  | expired _ _ => true
  | _ => false

end Event

/-- The event that the expiry of a requested timer delivers. -/
def TimerRequest.event (request : TimerRequest) : Event :=
  .expired request.kind request.generation

end CallAudio
