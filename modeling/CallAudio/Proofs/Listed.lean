/-
  Routes and the directory.

  Audio is opened only to devices that the directory lists.  An attempt that fails is another
  matter: then the route is what the stack reports, and the headset's own list of devices may
  lag behind the directory, or contradict it.

  * `Directory.Covers`: a route with its device, if any, in the directory;
  * `Machine.lost_routed_iff`: when a device that is lost has the route all the same;
  * `Machine.process_listed`: a device that comes to have the route is in the directory, or the
    stack reports audio on it;
  * `Machine.process_covers`: a machine on a stack whose headset has no devices of its own
    stays on routes that the directory covers;
  * `Router.vanished_devices`: what holds of every router that can be reached;
  * `Router.vanished_device_routed`: a device that is gone and gets the route again.
-/
import CallAudio.Proofs.Provenance
import CallAudio.Stack.Scripted

namespace CallAudio

/-- The device of the route, if it has one, is in the directory. -/
def Directory.Covers (directory : Directory) (route : Route) : Prop :=
  ∀ device, route.device? = some device → directory.contains device = true

theorem Route.isRoutedTo_iff_device? {route : Route} {device : Device} :
    route.isRoutedTo device = true ↔ route.device? = some device := by
  simp [Route.isRoutedTo]

theorem Headset.reported_isRoutedTo_iff {headset : Headset} {device : Device} :
    headset.reported.isRoutedTo device = true ↔ headset.active? = some device := by
  unfold reported; split <;> simp_all [Route.isRoutedTo, Route.device?]

namespace Turn

variable {world : Surroundings} {turn after : Turn} {device lost : Device} {attempt : Nat}

/-- An attempt on another device gives `lost` the route if it is refused and the stack reports
    audio on `lost`. -/
theorem Attempted.isRoutedTo_iff (h : Attempted world device attempt turn after)
    (hne : device ≠ lost) :
    after.machine.route.isRoutedTo lost = true ↔
      world.headset.accepts device = false ∧ world.headset.active? = some lost := by
  cases h with
  | accepted haccepts => simp [haccepts, Machine.arm, Route.isRoutedTo, Route.device?, hne]
  | refused hrefuses hsettled =>
    rw [hsettled.route_eq, Headset.reported_isRoutedTo_iff]
    simp [hrefuses]

/-- A device that had the route has it again if the one that should take over is refused while
    the stack reports audio on the former. -/
theorem Vacated.isRoutedTo_iff (h : Vacated world device turn after) :
    after.machine.route.isRoutedTo device = true ↔
      ∃ candidate, world.directory.fallback? device = some candidate ∧
        world.headset.accepts candidate = false ∧ world.headset.active? = some device := by
  cases h with
  | handOver hcandidate hattempted =>
    rw [hattempted.isRoutedTo_iff (Directory.of_fallback? hcandidate).1]
    simp [hcandidate]
  | off hnone => simp [hnone, Route.isRoutedTo, Route.device?]

end Turn

namespace Machine

variable {machine : Machine} {world : Surroundings} {event : Event} {device : Device}

/-- **A device that is lost has the route only if it had it before, another one should take over
    and is refused, and the stack reports audio on the lost one.** -/
theorem lost_routed_iff (machine : Machine) (world : Surroundings) (device : Device) :
    (machine.process world (.deviceLost device)).machine.route.isRoutedTo device = true ↔
      machine.route.isRoutedTo device = true ∧
        ∃ candidate, world.directory.fallback? device = some candidate ∧
          world.headset.accepts candidate = false ∧ world.headset.active? = some device := by
  obtain ⟨after, houtcome, heq⟩ := Turn.process_outcome world machine (.deviceLost device)
  rw [heq, Turn.machine_finish]
  cases houtcome with
  | lost hroute hvacated =>
    have hroute : machine.route.isRoutedTo device = true := hroute
    rw [Turn.machine_reportLoss, hvacated.isRoutedTo_iff]
    simp [hroute]
  | lostPending hroute =>
    have hroute : machine.route.isRoutedTo device = false := hroute
    simp [hroute]
  | lostOther hroute =>
    have hroute : machine.route.isRoutedTo device = false := hroute
    simp [hroute]

/-- **A device that comes to have the route is in the directory, unless audio was confirmed on
    it, or an attempt failed and the stack reports audio on it.** -/
theorem process_listed (hsound : machine.Sound)
    (hchanged : (machine.process world event).machine.route ≠ machine.route)
    (hroute : (machine.process world event).machine.route.isRoutedTo device = true) :
    event = .audioOn device ∨ world.directory.contains device = true ∨
      (machine.process world event).machine.route = .connected device ∧
        AttemptFailed world machine event (machine.process world event).issued ∧
        world.headset.active? = some device := by
  have hordered := machine.process_ordered world event
  have harrival := process_arrival hsound world event
  generalize machine.process world event = turn at *
  obtain ⟨after, transition, issued⟩ := turn
  obtain ⟨timeouts, route, pending, generation⟩ := after
  dsimp only at harrival hchanged hroute ⊢
  cases harrival with
  | stayed => exact absurd rfl hchanged
  | @asked other hissued =>
    obtain rfl : other = device := by simpa [Route.isRoutedTo, Route.device?] using hroute
    have hmem : .connectAudio other ∈ issued := by rw [hissued]; exact List.mem_singleton_self _
    exact .inr (.inl (hordered.connected hmem).1)
  | settled hfailed =>
    have hactive := Headset.reported_isRoutedTo_iff.1 hroute
    exact .inr (.inr ⟨Headset.reported_eq_connected_iff.2 hactive, hfailed, hactive⟩)
  | @confirmed other hevent =>
    obtain rfl : other = device := by simpa [Route.isRoutedTo, Route.device?] using hroute
    exact .inl hevent
  | closed => cases hroute
  | vacated => cases hroute

/-- **On a stack whose headset has only devices of the directory, the directory goes on to cover
    the route**, also when the device that has it is lost and gone from the directory. -/
theorem process_covers (hsound : machine.Sound)
    (hheadset : ∀ device ∈ world.headset.devices, world.directory.contains device = true)
    (hconfirmed : ∀ device, event = .audioOn device → world.directory.contains device = true)
    (hcovers : world.directory.Covers machine.route ∨
      ∃ device, machine.route.device? = some device ∧ event = .deviceLost device) :
    world.directory.Covers (machine.process world event).machine.route := by
  intro device hdevice
  have hroute := Route.isRoutedTo_iff_device?.2 hdevice
  have hreported (hactive : world.headset.active? = some device) :
      world.directory.contains device = true := hheadset device (Headset.of_active? hactive).1
  by_cases hchanged : (machine.process world event).machine.route = machine.route
  · rcases hcovers with hcovers | ⟨lost, hlost, rfl⟩
    · exact hcovers device (hchanged ▸ hdevice)
    · -- the route is still that of the lost device, so the stack reports audio on it
      obtain rfl : lost = device := Option.some.inj (hlost.symm.trans (hchanged ▸ hdevice))
      obtain ⟨-, _, -, -, hactive⟩ := (lost_routed_iff machine world lost).1 hroute
      exact hreported hactive
  · rcases process_listed hsound hchanged hroute with hevent | hlisted | ⟨-, -, hactive⟩
    · exact hconfirmed device hevent
    · exact hlisted
    · exact hreported hactive

end Machine

namespace Router

/-- **Routes to devices that the directory does not list.**  To every router that can be reached,
    whatever the directory and the headset answer: a device that is lost has the route afterwards
    exactly if it had it before, another one should take over and is refused, and it is the first
    on which the stack reports audio; and whenever an event other than a report that audio is on
    brings a device the route, the directory lists the device, or an attempt failed and it is the
    first on which the stack reports audio. -/
theorem vanished_devices (timeouts : Timeouts) (inputs : List Input) :
    let router := (Router.new timeouts).run inputs
    (∀ world device,
      let turn := (router.process world (.deviceLost device)).2
      turn.machine.route.isRoutedTo device = true ↔
        router.route.isRoutedTo device = true ∧
          ∃ candidate, world.directory.fallback? device = some candidate ∧
            world.headset.accepts candidate = false ∧
            world.headset.devices.find? world.headset.isActive = some device) ∧
    ∀ world event,
      let turn := (router.process world event).2
      turn.machine.route ≠ router.route → (∀ device, event ≠ .audioOn device) →
      ∀ device, turn.machine.route.device? = some device →
        world.directory.contains device = true ∨
        turn.machine.route = .connected device ∧
          AttemptFailed world router.machine event turn.issued ∧
          world.headset.devices.find? world.headset.isActive = some device := by
  intro router
  refine ⟨Machine.lost_routed_iff router.machine, ?_⟩
  intro world event turn hchanged hevent device hdevice
  have hsound : router.machine.Sound := (accounted_run timeouts inputs).sound
  have hlisted := Machine.process_listed hsound hchanged (Route.isRoutedTo_iff_device?.2 hdevice)
  exact hlisted.resolve_left (hevent device)

/-- A request is refused while the headset reports audio on a device that the directory never
    had. -/
theorem vanished_devices_refused :
    let world := ScriptedStack.surroundings
      { devices := [⟨"B"⟩], headsetDevices := [⟨"C"⟩, ⟨"B"⟩], active := [⟨"C"⟩], accepts := false }
    let router := Router.new .default
    let turn := (router.process world (.connect none)).2
    turn.machine.route ≠ router.route ∧ turn.machine.route.device? = some ⟨"C"⟩ ∧
      world.directory.contains ⟨"C"⟩ = false ∧
      AttemptFailed world router.machine (.connect none) turn.issued := by
  intro world router turn
  have hchanged : turn.machine.route ≠ router.route := by decide
  have hdevice : turn.machine.route.device? = some ⟨"C"⟩ := by decide
  have hgone : world.directory.contains ⟨"C"⟩ = false := by decide
  obtain ⟨-, harrived⟩ := vanished_devices .default []
  rcases harrived world (.connect none) hchanged (by simp) _ hdevice with hlisted | hreported
  · rw [hgone] at hlisted; cases hlisted
  · exact ⟨hchanged, hdevice, hgone, hreported.2.1⟩

/-- A device that is being connected vanishes, the one that should take over is refused, and the
    headset still lists the former and reports audio on it: so it gets the route again. -/
theorem vanished_device_routed :
    let world := ScriptedStack.surroundings
      { devices := [⟨"B"⟩], headsetDevices := [⟨"A"⟩, ⟨"B"⟩], active := [⟨"A"⟩], accepts := false }
    let before : ScriptedStack := { devices := [⟨"A"⟩, ⟨"B"⟩] }
    let router := (Router.new .default).run [.force before.directory (.connecting ⟨"A"⟩)]
    let turn := (router.process world (.deviceLost ⟨"A"⟩)).2
    router.route = .connecting ⟨"A"⟩ ∧ world.directory.contains ⟨"A"⟩ = false ∧
      turn.issued = [.connectAudio ⟨"B"⟩] ∧ turn.machine.route = .connected ⟨"A"⟩ := by
  decide

end Router

end CallAudio
