/-
  What the route machine sees of the headset stack.

  The directory of connected devices and the headset interface belong to the stack.  The
  machine asks them questions and gives the headset commands.  While one event is
  processed the answers stand still, so they are plain data here; nothing is assumed
  about how the answers fit together, or from one event to the next.
-/
import CallAudio.Device

namespace CallAudio

/-- The answers of the directory of connected devices. -/
structure Directory where
  /-- How many devices are connected. -/
  count : Nat
  /-- Whether a device is connected. -/
  contains : Device → Bool
  /-- The device connected last, one device possibly left out. -/
  mostRecent : (excluded : Option Device) → Option Device

/-- The answers of the headset interface. -/
structure Headset where
  /-- Whether a request to open audio to the device is accepted. -/
  accepts : Device → Bool
  /-- The devices that the headset interface holds connected. -/
  devices : List Device
  /-- Whether the stack reports audio on the device. -/
  isActive : Device → Bool

/-- What the machine sees while it processes one event. -/
structure Surroundings where
  directory : Directory
  headset : Headset

end CallAudio
