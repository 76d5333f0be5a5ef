/-
  The record of an event, and what really happened.

  Five ways lead to a request to open audio, and a refusal leads on to what the stack reports.
  `Turn.Ordered` says what of it reaches the headset and what is written into the record;
  `Machine.process_ordered` says so of every event.  `Machine.process_record` says that a record
  names its event and goes from the route before to the route after.
-/
import CallAudio.Proofs.Outcome

namespace CallAudio

/-- An event that reports the loss of `device` or of audio on it. -/
def Event.IsLossOf (event : Event) (device : Device) : Prop :=
  event = .deviceLost device ∨ event = .audioLost device

namespace Turn

variable {world : Surroundings} {turn after : Turn} {device : Device} {attempt : Nat}
  {event : Event}

/-! ## Attempts -/

/-- After a failed attempt the headset receives nothing more. -/
theorem Settled.issued_eq (h : Settled world device attempt turn after) :
    after.issued = turn.issued := by
  cases h <;> simp

theorem Settled.command_eq (h : Settled world device attempt turn after) :
    after.transition.command = turn.transition.command := by
  cases h <;> simp

theorem Settled.fault_eq (h : Settled world device attempt turn after) :
    after.transition.fault = turn.transition.fault := by
  cases h <;> simp

/-- An attempt is one command, accepted or not. -/
theorem Attempted.issued_eq (h : Attempted world device attempt turn after) :
    after.issued = turn.issued ++ [.connectAudio device] := by
  cases h with
  | accepted => simp
  | refused _ hsettled => simp [hsettled.issued_eq]

theorem Attempted.command_eq (h : Attempted world device attempt turn after) :
    after.transition.command = some (.connectAudio device) := by
  cases h with
  | accepted => simp
  | refused _ hsettled => simp [hsettled.command_eq]

/-! ## Events -/

/-- What the headset receives during an event, and what the record says of it. -/
inductive Ordered (world : Surroundings) (route : Route) (event : Event) (after : Turn) : Prop
  /-- Nothing. -/
  | nothing (hissued : after.issued = []) (hcommand : after.transition.command = none)
      (hevent : event = .disconnect → route = .off)
  /-- One request to open audio, to a connected device other than the one that lost it. -/
  | connect {device : Device} (hissued : after.issued = [.connectAudio device])
      (hcommand : after.transition.command = some (.connectAudio device))
      (hlisted : world.directory.contains device = true) (hkept : ¬ event.IsLossOf device)
      (hevent : event ≠ .disconnect)
  /-- One request to close audio. -/
  | disconnect (hissued : after.issued = [.disconnectAudio])
      (hcommand : after.transition.command = some .disconnectAudio)
      (hevent : event = .disconnect) (hroute : route ≠ .off)

theorem Ordered.congr {other : Turn} {route : Route} (h : Ordered world route event turn)
    (hissued : other.issued = turn.issued)
    (hcommand : other.transition.command = turn.transition.command) :
    Ordered world route event other := by
  cases h with
  | nothing h h' hevent => exact .nothing (hissued.trans h) (hcommand.trans h') hevent
  | connect h h' hlisted hkept hevent =>
    exact .connect (hissued.trans h) (hcommand.trans h') hlisted hkept hevent
  | disconnect h h' hevent hroute =>
    exact .disconnect (hissued.trans h) (hcommand.trans h') hevent hroute

theorem Ordered.length_issued_le {route : Route} (h : Ordered world route event turn) :
    turn.issued.length ≤ 1 := by
  cases h with
  | nothing h => simp [h]
  | connect h => simp [h]
  | disconnect h => simp [h]

/-- Audio is opened only to a connected device that did not lose it just then. -/
theorem Ordered.connected {route : Route} (h : Ordered world route event turn)
    (hdevice : .connectAudio device ∈ turn.issued) :
    world.directory.contains device = true ∧ ¬ event.IsLossOf device := by
  cases h with
  | nothing h => simp [h] at hdevice
  | connect h _ hlisted hkept =>
    rw [h, List.mem_singleton] at hdevice
    cases hdevice
    exact ⟨hlisted, hkept⟩
  | disconnect h => simp [h] at hdevice

/-- Audio is closed exactly on request, while it is not off. -/
theorem Ordered.disconnect_iff {route : Route} (h : Ordered world route event turn) :
    .disconnectAudio ∈ turn.issued ↔ event = .disconnect ∧ route ≠ .off := by
  cases h with
  | nothing h _ hevent =>
    rw [h]
    exact ⟨fun hmem => (by cases hmem), fun ⟨heq, hroute⟩ => absurd (hevent heq) hroute⟩
  | connect h _ _ _ hevent =>
    rw [h]
    exact ⟨fun hmem => (by simp at hmem), fun ⟨heq, _⟩ => absurd heq hevent⟩
  | disconnect h _ hevent hroute =>
    rw [h]
    exact ⟨fun _ => ⟨hevent, hroute⟩, fun _ => List.mem_singleton_self _⟩

/-- An attempt on a connected device that did not lose the route. -/
theorem Attempted.ordered (h : Attempted world device attempt turn after)
    (hissued : turn.issued = []) (hlisted : world.directory.contains device = true)
    (hkept : ¬ event.IsLossOf device) (hevent : event ≠ .disconnect) (route : Route) :
    Ordered world route event after :=
  .connect (by rw [h.issued_eq, hissued]; rfl) h.command_eq hlisted hkept hevent

theorem Vacated.ordered (h : Vacated world device turn after) (hissued : turn.issued = [])
    (hcommand : turn.transition.command = none) (hloss : event.IsLossOf device) (route : Route) :
    Ordered world route event after := by
  have hevent : event ≠ .disconnect := by rcases hloss with rfl | rfl <;> simp
  cases h with
  | @handOver candidate _ hcandidate hattempted =>
    obtain ⟨hne, hlisted⟩ := Directory.of_fallback? hcandidate
    refine hattempted.ordered (by simpa using hissued) hlisted ?_ hevent route
    rcases hloss with rfl | rfl <;> simpa [Event.IsLossOf] using hne.symm
  | off => exact .nothing (by simpa using hissued) (by simpa using hcommand) (absurd · hevent)

theorem Outcome.ordered (h : Outcome world turn event after) (hissued : turn.issued = [])
    (hcommand : turn.transition.command = none) :
    Ordered world turn.machine.route event after := by
  have hcancelled : turn.cancelTimer.issued = [] := by simpa using hissued
  cases h with
  | connect _ htarget hattempted =>
    exact hattempted.ordered hcancelled (Directory.contains_of_selectTarget htarget)
      (by simp [Event.IsLossOf]) (by simp) _
  | switch _ _ hlisted hattempted =>
    exact hattempted.ordered hissued hlisted (by simp [Event.IsLossOf]) (by simp) _
  | retried _ hlisted hattempted =>
    exact hattempted.ordered hissued hlisted (by simp [Event.IsLossOf]) (by simp) _
  | lost _ hvacated =>
    exact (hvacated.ordered hissued hcommand (.inl rfl) _).congr (by simp) (by simp)
  | dropped _ hvacated =>
    exact hvacated.ordered (by simpa using hissued) (by simpa using hcommand) (.inr rfl) _
  | disconnect hroute => exact .disconnect (by simp [hissued]) (by simp) rfl hroute
  | stayOff hroute => exact .nothing hcancelled (by simpa using hcommand) fun _ => hroute
  | timedOut _ hsettled =>
    exact .nothing (by simpa [hsettled.issued_eq] using hissued)
      (by simpa [hsettled.command_eq] using hcommand) (by simp)
  | _ => exact .nothing (by simpa using hissued) (by simpa using hcommand) (by simp)

/-! ## Where a record starts -/

/-- The event of a record and the route that it starts from. -/
def heading (turn : Turn) : EventKind × Route := (turn.transition.event, turn.transition.source)

theorem Settled.heading_eq (h : Settled world device attempt turn after) :
    after.heading = turn.heading := by
  cases h <;> simp [heading]

theorem Attempted.heading_eq (h : Attempted world device attempt turn after) :
    after.heading = turn.heading := by
  cases h with
  | accepted => simp [heading]
  | refused _ hsettled => simpa [heading] using hsettled.heading_eq

theorem Vacated.heading_eq (h : Vacated world device turn after) :
    after.heading = turn.heading := by
  cases h with
  | handOver _ hattempted => simpa [heading] using hattempted.heading_eq
  | off => simp [heading]

theorem Outcome.heading_eq (h : Outcome world turn event after) :
    after.heading = turn.heading := by
  cases h with
  | connect _ _ hattempted | switch _ _ _ hattempted | retried _ _ hattempted =>
    simpa [heading] using hattempted.heading_eq
  | lost _ hvacated | dropped _ hvacated => simpa [heading] using hvacated.heading_eq
  | timedOut _ hsettled => simpa [heading] using hsettled.heading_eq
  | _ => simp [heading]

end Turn

namespace Machine

/-- **The commands of an event are those of its record.** -/
theorem process_ordered (machine : Machine) (world : Surroundings) (event : Event) :
    Turn.Ordered world machine.route event (machine.process world event) := by
  obtain ⟨after, houtcome, heq⟩ := Turn.process_outcome world machine event
  rw [heq]
  exact (houtcome.ordered rfl rfl).congr rfl rfl

theorem process_issued (machine : Machine) (world : Surroundings) (event : Event) :
    (machine.process world event).issued =
      (machine.process world event).transition.command.toList := by
  cases machine.process_ordered world event with
  | nothing h h' => rw [h, h']; rfl
  | connect h h' => rw [h, h']; rfl
  | disconnect h h' => rw [h, h']; rfl

/-- A record names its event, and goes from the route before to the route after. -/
theorem process_record (machine : Machine) (world : Surroundings) (event : Event) :
    let turn := machine.process world event
    turn.transition.event = event.kind ∧ turn.transition.source = machine.route ∧
      turn.transition.target = turn.machine.route := by
  obtain ⟨after, houtcome, heq⟩ := Turn.process_outcome world machine event
  rw [heq]
  obtain ⟨hevent, hsource⟩ := Prod.mk.inj houtcome.heading_eq
  exact ⟨hevent, hsource, rfl⟩

end Machine

end CallAudio
