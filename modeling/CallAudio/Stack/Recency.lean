/-
  Connected devices in the order of their last connection.

  The list has the device connected last in front.  Connecting a device moves it to the
  front; a list given as a whole is taken as it is, repetitions included.
-/
import CallAudio.Surroundings

namespace CallAudio

/-- Connected devices, the one connected last first. -/
structure Recency where
  devices : List Device := []
deriving DecidableEq, Inhabited

namespace Recency

/-- Forgets a device. -/
def disconnect (recency : Recency) (device : Device) : Recency :=
  ⟨recency.devices.filter (· != device)⟩

/-- Puts a device in front. -/
def connect (recency : Recency) (device : Device) : Recency :=
  ⟨device :: (recency.disconnect device).devices⟩

/-- How many entries there are. -/
def count (recency : Recency) : Nat := recency.devices.length

/-- Whether a device is connected. -/
def contains (recency : Recency) (device : Device) : Bool := recency.devices.contains device

/-- The entry in front, entries of `excluded` passed over. -/
def mostRecent (recency : Recency) (excluded : Option Device) : Option Device :=
  recency.devices.find? fun device => some device != excluded

theorem mem_disconnect {recency : Recency} {device other : Device} :
    other ∈ (recency.disconnect device).devices ↔ other ∈ recency.devices ∧ other ≠ device := by
  simp [disconnect]

theorem mem_connect {recency : Recency} {device other : Device} :
    other ∈ (recency.connect device).devices ↔ other = device ∨ other ∈ recency.devices := by
  by_cases h : other = device <;> simp [connect, mem_disconnect, h]

theorem contains_iff {recency : Recency} {device : Device} :
    recency.contains device = true ↔ device ∈ recency.devices := by
  simp [contains]

/-- Connecting a device keeps a list free of repetitions. -/
theorem nodup_connect {recency : Recency} (h : recency.devices.Nodup) (device : Device) :
    (recency.connect device).devices.Nodup :=
  List.nodup_cons.2 ⟨by simp [mem_disconnect], h.sublist List.filter_sublist⟩

/-- The list as a directory. -/
def directory (recency : Recency) : Directory where
  count := recency.count
  contains := recency.contains
  mostRecent := recency.mostRecent

end Recency

end CallAudio
