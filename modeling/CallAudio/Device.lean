/-
  Hands-free devices, known by their addresses.

  An address is opaque text: it may be empty, hold colons or control characters, or
  differ from another in letter case only.  Two devices are the same device exactly when
  their addresses are equal.
-/

namespace CallAudio

/-- A hands-free device. -/
structure Device where
  /-- The address under which the headset stack knows the device. -/
  address : String
deriving DecidableEq, Inhabited

/-- Whether `address` names the device. -/
def Device.hasAddress (device : Device) (address : String) : Bool :=
  device.address == address

theorem Device.hasAddress_iff {device : Device} {address : String} :
    device.hasAddress address = true ↔ device = ⟨address⟩ := by
  cases device; simp [Device.hasAddress]

end CallAudio
