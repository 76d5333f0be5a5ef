/-
  The route machine: decides which hands-free device carries call audio.

  * `Turn.handle`: what each event does;
  * `Machine.process`: takes the machine through one event, and yields the machine after
    it, the transition, and the commands that the headset received meanwhile;
  * `Machine.force`: puts the machine into a given route.
-/
import CallAudio.Machine.Connect

namespace CallAudio

namespace Turn

/-- A request while the route is off: whatever was planned is dropped, and the target is
    connected. -/
def connectFromOff (world : Surroundings) (requested : Option Device) (turn : Turn) : Turn :=
  let turn := turn.cancelTimer
  match world.directory.selectTarget requested with
  | .ok (some target) => turn.beginConnect world target 0
  | .ok none => turn.notify .audioDisconnected
  | .error fault => (turn.blame fault).notify .audioDisconnected

/-- A request for `device` while the route belongs to another one. -/
def switchTo (world : Surroundings) (device : Device) (turn : Turn) : Turn :=
  match world.directory.selectTarget (some device) with
  | .ok (some target) => turn.beginConnect world target 0
  | .ok none => turn
  | .error fault => turn.blame fault

/-- A request for audio.  Without a name, or for the current device, it asks for nothing
    new while the route belongs to a device. -/
def onConnect (world : Surroundings) (requested : Option Device) (turn : Turn) : Turn :=
  match turn.machine.route.device?, requested with
  | none, requested => turn.connectFromOff world requested
  | some _, none => turn
  | some current, some device => if device = current then turn else turn.switchTo world device

/-- A request to take audio off the hands-free devices. -/
def onDisconnect (turn : Turn) : Turn :=
  let turn := turn.cancelTimer
  if turn.machine.route.isOff then turn
  else ((turn.issue .disconnectAudio).moveTo .off).notify .audioDisconnected

/-- A device connected. -/
def onDeviceAdded (world : Surroundings) (turn : Turn) : Turn :=
  let turn := turn.notify .deviceListChanged
  if world.directory.count = 1 then turn.notify .deviceAvailable else turn

/-- What the loss of `device` means for the route and for a planned retry. -/
def leaveLost (world : Surroundings) (device : Device) (turn : Turn) : Turn :=
  if turn.machine.route.isRoutedTo device then turn.fallBack world device
  else if turn.machine.pending.any (·.device = device) then turn.cancelTimer
  else turn

/-- Has the listener notified that a device disconnected. -/
def reportLoss (world : Surroundings) (turn : Turn) : Turn :=
  let turn := turn.notify .deviceListChanged
  if world.directory.count = 0 then turn.notify .deviceUnavailable else turn

/-- A device disconnected. -/
def onDeviceLost (world : Surroundings) (device : Device) (turn : Turn) : Turn :=
  (turn.leaveLost world device).reportLoss world

/-- The stack confirms audio on `device`; it is believed even if nobody asked. -/
def onAudioOn (world : Surroundings) (device : Device) (turn : Turn) : Turn :=
  let turn := turn.checkReport world device
  if turn.machine.route = .connected device then turn
  else (turn.cancelTimer.moveTo (.connected device)).notify .audioConnected

/-- The stack dropped audio on `device`. -/
def onAudioLost (world : Surroundings) (device : Device) (turn : Turn) : Turn :=
  let turn := turn.checkReport world device
  if turn.machine.route.isRoutedTo device then turn.fallBack world device else turn

/-- The outstanding timer, if the expiry is its expiry. -/
def matching? (kind : TimerKind) (generation : UInt64) (turn : Turn) : Option PendingTimer :=
  turn.machine.pending.filter fun timer =>
    timer.generation = generation && timer.kind = kind &&
      match kind with
      | .confirmation => turn.machine.route == .connecting timer.device
      | .retry => turn.machine.route.isOff

/-- A device did not confirm in time. -/
def onConfirmationTimeout (world : Surroundings) (timer : PendingTimer) (turn : Turn) : Turn :=
  (turn.consumeTimer.blame (.confirmationTimeout timer.device)).settleFailure world
    timer.device timer.attempt

/-- The wait before a retry is over; a device that went meanwhile is not tried again. -/
def onRetry (world : Surroundings) (timer : PendingTimer) (turn : Turn) : Turn :=
  if world.directory.contains timer.device then
    turn.consumeTimer.beginConnect world timer.device timer.attempt
  else turn.consumeTimer

/-- A timer expired; the expiry of any other than the outstanding timer is discarded. -/
def onExpired (world : Surroundings) (kind : TimerKind) (generation : UInt64) (turn : Turn) :
    Turn :=
  match turn.matching? kind generation, kind with
  | none, _ => turn
  | some timer, .confirmation => turn.onConfirmationTimeout world timer
  | some timer, .retry => turn.onRetry world timer

/-- What an event does. -/
def handle (world : Surroundings) (turn : Turn) : Event → Turn
  | .connect requested => turn.onConnect world requested
  | .disconnect => turn.onDisconnect
  | .deviceAdded _ => turn.onDeviceAdded world
  | .deviceLost device => turn.onDeviceLost world device
  | .audioOn device => turn.onAudioOn world device
  | .audioLost device => turn.onAudioLost world device
  | .expired kind generation => turn.onExpired world kind generation

/-- Writes the route reached into the record. -/
def finish (turn : Turn) : Turn :=
  { turn with transition := { turn.transition with target := turn.machine.route } }

end Turn

namespace Machine

/-- Processes one event to its end. -/
def process (machine : Machine) (world : Surroundings) (event : Event) : Turn :=
  ((Turn.start machine event.kind).handle world event).finish

/-- Enters a route from outside, and says which timer to arm for it. -/
def enter (machine : Machine) (route : Route) : Machine × Option TimerRequest :=
  let machine := { machine with route := route, pending := none }
  match route with
  | .connecting device =>
    let (machine, request) := machine.arm .confirmation device 0
    (machine, some request)
  | .off | .connected _ => (machine, none)

/-- Puts the machine into `route`, without command or notice.  A route of a device that
    is not connected is refused.  A route that awaits confirmation comes with the timer
    to arm. -/
def force (machine : Machine) (directory : Directory) (route : Route) :
    Except Fault (Machine × Option TimerRequest) :=
  match route.device? with
  | some device =>
    if directory.contains device then .ok (machine.enter route)
    else .error (.unknownDevice device)
  | none => .ok (machine.enter route)

end Machine

end CallAudio
