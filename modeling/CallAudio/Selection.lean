/-
  Which device to take.

  The directory knows the order in which devices connected.  Whatever it proposes, a
  device is selected only if the directory also confirms that it is connected.
-/
import CallAudio.Fault
import CallAudio.Surroundings

namespace CallAudio

/-- The device a connect request is for: the named one, which has to be connected, or the
    one connected last; `none` if there is no device at all. -/
def Directory.selectTarget (directory : Directory) :
    Option Device → Except Fault (Option Device)
  | some device =>
    if directory.contains device then .ok (some device) else .error (.unknownDevice device)
  | none => .ok ((directory.mostRecent none).filter directory.contains)

/-- The device that takes over audio from `vacated`. -/
def Directory.fallback? (directory : Directory) (vacated : Device) : Option Device :=
  (directory.mostRecent (some vacated)).filter fun candidate =>
    candidate != vacated && directory.contains candidate

/-- The device that takes over is another one, and connected. -/
theorem Directory.of_fallback? {directory : Directory} {vacated device : Device}
    (h : directory.fallback? vacated = some device) :
    device ≠ vacated ∧ directory.contains device = true := by
  simpa using (Option.filter_eq_some_iff.1 h).2

/-- A target that is selected is connected. -/
theorem Directory.contains_of_selectTarget {directory : Directory} {requested : Option Device}
    {device : Device} (h : directory.selectTarget requested = .ok (some device)) :
    directory.contains device = true := by
  unfold selectTarget at h
  split at h
  · split at h
    · cases h; assumption
    · cases h
  · exact (Option.filter_eq_some_iff.1 (Except.ok.inj h)).2

/-- The first of the headset's devices on which the stack reports audio. -/
def Headset.active? (headset : Headset) : Option Device :=
  headset.devices.find? headset.isActive

/-- A device found active is one of the headset's, and active. -/
theorem Headset.of_active? {headset : Headset} {device : Device}
    (h : headset.active? = some device) :
    device ∈ headset.devices ∧ headset.isActive device = true :=
  ⟨List.mem_of_find?_eq_some h, List.find?_some h⟩

end CallAudio
