/-
  How the route machine finds a route.

  * `Turn.beginConnect`: asks the headset to open audio to a device;
  * `Turn.settleFailure`: what comes of a failed attempt;
  * `Turn.fallBack`: what comes of a lost route.
-/
import CallAudio.Machine.Turn
import CallAudio.Selection

namespace CallAudio.Turn

/-- Settles on what the stack reports after a failed attempt on `attempted`: the device
    that has audio anyway, or off, and then a retry if one is left and the device is
    still connected. -/
def settleFailure (world : Surroundings) (attempted : Device) (attempt : Nat) (turn : Turn) :
    Turn :=
  match world.headset.active? with
  | some device => (turn.moveTo (.connected device)).notify .audioConnected
  | none =>
    let turn := (turn.moveTo .off).notify .audioDisconnected
    if attempt < turn.machine.timeouts.retries ∧ world.directory.contains attempted then
      turn.arm .retry attempted (attempt + 1)
    else turn

/-- Asks the headset to open audio to `device`. -/
def beginConnect (world : Surroundings) (device : Device) (attempt : Nat) (turn : Turn) : Turn :=
  let turn := turn.cancelTimer.issue (.connectAudio device)
  if world.headset.accepts device then
    ((turn.moveTo (.connecting device)).arm .confirmation device attempt).notify .audioConnected
  else
    (turn.blame (.commandRejected device)).settleFailure world device attempt

/-- Moves audio away from `vacated`, or turns it off if no device is left. -/
def fallBack (world : Surroundings) (vacated : Device) (turn : Turn) : Turn :=
  match world.directory.fallback? vacated with
  | some candidate => turn.cancelTimer.beginConnect world candidate 0
  | none => (turn.cancelTimer.moveTo .off).notify .audioDisconnected

/-- Blames a report about a device that the directory does not list. -/
def checkReport (world : Surroundings) (device : Device) (turn : Turn) : Turn :=
  if world.directory.contains device then turn else turn.blame (.inconsistentReport device)

end CallAudio.Turn
