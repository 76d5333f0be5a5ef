/-
  Where call audio goes.

  A route is off, or belongs to one device: to a device that was asked and has not
  answered yet, or to one that confirmed.
-/
import CallAudio.Device

namespace CallAudio

/-- Which device, if any, has call audio. -/
inductive Route where
  /-- No hands-free device has audio. -/
  | off
  /-- The device was asked to take audio and has not confirmed yet. -/
  | connecting (device : Device)
  /-- The device confirmed that it has audio. -/
  | connected (device : Device)
deriving DecidableEq, Inhabited

namespace Route

/-- The device that has audio or was asked to take it. -/
def device? : Route → Option Device
  | off => none
  | connecting device | connected device => some device

/-- Whether the route belongs to `device`. -/
def isRoutedTo (route : Route) (device : Device) : Bool := route.device? == some device

/-- Whether no device has audio or was asked to take it. -/
def isOff : Route → Bool
  | off => true
  | connecting _ | connected _ => false

/-- The name of a route in diagnostics, such as `AudioConnecting:00:11:22:33:44:55`. -/
def name : Route → String
  | off => "AudioOff"
  | connecting device => "AudioConnecting:" ++ device.address
  | connected device => "AudioConnected:" ++ device.address

theorem device?_eq_none_iff {route : Route} : route.device? = none ↔ route = off := by
  cases route <;> simp [device?]

theorem isOff_iff {route : Route} : route.isOff = true ↔ route = off := by
  cases route <;> simp [isOff]

theorem isRoutedTo_iff {route : Route} {device : Device} :
    route.isRoutedTo device = true ↔ route = connecting device ∨ route = connected device := by
  cases route <;> simp [isRoutedTo, device?]

end Route

end CallAudio
