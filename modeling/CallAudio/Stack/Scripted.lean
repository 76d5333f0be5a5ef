/-
  A headset stack whose answers are set by hand.

  The answers may contradict each other, as those of a stack that lags behind do: the
  directory may count other devices than it lists, and propose a device that it was asked
  to leave out.
-/
import CallAudio.Surroundings

namespace CallAudio

/-- A headset stack whose answers are set by hand. -/
structure ScriptedStack where
  /-- The devices that the directory lists. -/
  devices : List Device := []
  /-- The order from which the directory proposes devices. -/
  recent : List Device := devices
  /-- The number of devices that the directory reports. -/
  count : Nat := devices.length
  /-- Whether the directory proposes even the device to be left out. -/
  ignoresExcluded : Bool := false
  /-- The devices that the headset lists. -/
  headsetDevices : List Device := devices
  /-- The devices on which the stack reports audio. -/
  active : List Device := []
  /-- Whether requests to open audio are accepted. -/
  accepts : Bool := true
deriving DecidableEq, Inhabited

namespace ScriptedStack

/-- The directory side of the stack. -/
def directory (stack : ScriptedStack) : Directory where
  count := stack.count
  contains := stack.devices.contains
  mostRecent excluded :=
    stack.recent.find? fun device => stack.ignoresExcluded || some device != excluded

/-- The headset side of the stack. -/
def headset (stack : ScriptedStack) : Headset where
  accepts _ := stack.accepts
  devices := stack.headsetDevices
  isActive := stack.active.contains

/-- What a machine on this stack sees. -/
def surroundings (stack : ScriptedStack) : Surroundings where
  directory := stack.directory
  headset := stack.headset

end ScriptedStack

end CallAudio
