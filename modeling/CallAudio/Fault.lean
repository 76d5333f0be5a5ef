/-
  Faults met while routing.

  No fault is fatal: the machine settles on a route all the same, and reports the fault
  with the transition.
-/
import CallAudio.Device

namespace CallAudio

/-- Something that went wrong with a device. -/
inductive Fault where
  /-- The headset refused to open audio to the device. -/
  | commandRejected (device : Device)
  /-- The device was asked to take audio and did not confirm in time. -/
  | confirmationTimeout (device : Device)
  /-- The stack reports audio on a device that the directory does not list. -/
  | inconsistentReport (device : Device)
  /-- The device is not connected. -/
  | unknownDevice (device : Device)
deriving DecidableEq, Inhabited

namespace Fault

/-- The device a fault is about. -/
def device : Fault → Device
  | commandRejected device | confirmationTimeout device | inconsistentReport device
  | unknownDevice device => device

/-- The text of a fault. -/
def message : Fault → String
  | commandRejected device => "Headset rejected audio connection to " ++ device.address
  | confirmationTimeout device => "Audio on " ++ device.address ++ " was not confirmed in time"
  | inconsistentReport device =>
    "Native stack reported audio for " ++ device.address ++
      ", which is not in the device directory"
  | unknownDevice device => "Device not connected: " ++ device.address

end Fault

end CallAudio
