/-
  The route and the outstanding timer.

  The machine writes its route, its outstanding timer and its generation counter in separate
  places.  `Machine.Sound` says how they belong together; `Machine.Change` says what a call
  can do to them and to the timer of the machine's owner at once:

  * `process_change`: an event changes nothing, or leaves a machine without a timer on a route
    that awaits nothing, or arms one timer and moves to the route that this timer is for;
  * `force_change`: a route that is entered from outside does one of the latter two;
  * `Change.sound`: either way the machine stays sound.
-/
import CallAudio.Proofs.Outcome

namespace CallAudio

/-- The route on which a timer is waited for. -/
def PendingTimer.route (timer : PendingTimer) : Route :=
  match timer.kind with
  | .confirmation => .connecting timer.device
  | .retry => .off

/-- The request with which a timer was armed. -/
def PendingTimer.request (timer : PendingTimer) (timeouts : Timeouts) : TimerRequest where
  kind := timer.kind
  generation := timer.generation
  delay := timeouts.delay timer.kind

namespace Machine

/-- The route and the outstanding timer belong together. -/
structure Sound (machine : Machine) : Prop where
  /-- The route is the one on which the outstanding timer is waited for. -/
  route_eq : ∀ {timer}, machine.pending = some timer → machine.route = timer.route
  /-- The outstanding timer is the one armed last. -/
  newest : ∀ {timer}, machine.pending = some timer → timer.generation = machine.generation
  /-- A route that awaits confirmation does not wait without a timer. -/
  awaited : ∀ {device}, machine.route = .connecting device → machine.pending ≠ none

/-- What a call does to a machine that it changes, and the timer that it arms, if any. -/
inductive Change (before : Machine) : Machine → Option TimerRequest → Prop
  /-- Nothing is waited for any more. -/
  | clear (route : Route) (hroute : ∀ device, route ≠ .connecting device) :
      Change before { before with route := route, pending := none } none
  /-- A timer of a new generation is armed. -/
  | arm (timer : PendingTimer) (hnew : timer.generation = before.generation + 1) :
      Change before
        { before with
          route := timer.route, pending := some timer, generation := before.generation + 1 }
        (some (timer.request before.timeouts))

variable {machine before after : Machine} {request : Option TimerRequest}

theorem sound_initial (timeouts : Timeouts) : Sound { timeouts } where
  route_eq h := by cases h
  newest h := by cases h
  awaited h := by cases h

theorem Change.sound (h : Change before after request) : after.Sound := by
  cases h with
  | clear route hroute =>
    exact ⟨fun h => (by cases h), fun h => (by cases h), fun h => absurd h (hroute _)⟩
  | arm timer hnew =>
    refine ⟨fun h => ?_, fun h => ?_, fun _ h => (by cases h)⟩
    · cases h; rfl
    · cases h; exact hnew

theorem Change.timeouts_eq (h : Change before after request) :
    after.timeouts = before.timeouts := by
  cases h <;> rfl

/-- A timer that is outstanding after a change is new. -/
theorem Change.generation_eq (h : Change before after request) {timer : PendingTimer}
    (hpending : after.pending = some timer) : timer.generation = before.generation + 1 := by
  cases h with
  | clear => cases hpending
  | arm timer hnew => cases hpending; exact hnew

/-- A timer that is outstanding after a change was armed with it. -/
theorem Change.armed_of_pending (h : Change before after request) {timer : PendingTimer}
    (hpending : after.pending = some timer) : ∃ armed, request = some armed := by
  cases h with
  | clear => cases hpending
  | arm timer => exact ⟨_, rfl⟩

/-- A machine with an outstanding timer does not stay as it is when it is changed. -/
theorem Change.ne (h : Change before after request) (hsound : before.Sound)
    {timer : PendingTimer} (hpending : before.pending = some timer) : after ≠ before := by
  rintro rfl
  have hnew := h.generation_eq hpending
  rw [hsound.newest hpending] at hnew
  exact absurd (UInt64.left_eq_add.1 hnew) (by decide)

/-- A change does not depend on the timer that was outstanding. -/
theorem Change.of_pending {pending : Option PendingTimer}
    (h : Change { before with pending } after request) : Change before after request := by
  cases h with
  | clear route hroute => exact .clear route hroute
  | arm timer hnew => exact .arm timer hnew

/-- A machine that waits for a retry is off. -/
theorem Sound.route_retry (h : machine.Sound) {timer : PendingTimer}
    (hpending : machine.pending = some timer) (hkind : timer.kind = .retry) :
    machine.route = .off := by
  rw [h.route_eq hpending, PendingTimer.route, hkind]

/-- A machine that waits for a confirmation is connecting the timer's device. -/
theorem Sound.route_confirmation (h : machine.Sound) {timer : PendingTimer}
    (hpending : machine.pending = some timer) (hkind : timer.kind = .confirmation) :
    machine.route = .connecting timer.device := by
  rw [h.route_eq hpending, PendingTimer.route, hkind]

/-- A timer is outstanding for a device without the route only if it is for a retry. -/
theorem Sound.off_of_not_routed (h : machine.Sound) {timer : PendingTimer}
    (hpending : machine.pending = some timer)
    (hroute : machine.route.isRoutedTo timer.device = false) : machine.route = .off := by
  cases hkind : timer.kind with
  | retry => exact h.route_retry hpending hkind
  | confirmation =>
    rw [h.route_confirmation hpending hkind] at hroute
    simp [Route.isRoutedTo, Route.device?] at hroute

end Machine

namespace Turn

open Machine

variable {world : Surroundings} {turn after : Turn} {device : Device} {attempt : Nat}

/-! ## What an attempt changes -/

/-- A turn that arms nothing, and ends without a timer on a route that awaits nothing. -/
theorem change_clear (route : Route) (hroute : ∀ other, route ≠ .connecting other)
    (hmachine : after.machine = { turn.machine with route, pending := none })
    (htimer : after.transition.timer.armed? = none) :
    Change turn.machine after.machine after.transition.timer.armed? := by
  rw [hmachine, htimer]; exact .clear route hroute

/-- A timer can be given up while audio is off. -/
theorem change_consumeTimer (hroute : turn.machine.route = .off)
    (htimer : turn.transition.timer.armed? = none) :
    Change turn.machine turn.consumeTimer.machine
      turn.consumeTimer.transition.timer.armed? :=
  change_clear .off (by simp) (by simp [hroute]) htimer

theorem Settled.change (h : Settled world device attempt turn after)
    (hpending : turn.machine.pending = none) (htimer : turn.transition.timer.armed? = none) :
    Change turn.machine after.machine after.transition.timer.armed? := by
  cases h with
  | @active other => exact change_clear (.connected other) (by simp) (by simp [hpending]) htimer
  | retry => exact .arm ⟨turn.machine.generation + 1, .retry, device, attempt + 1⟩ rfl
  | ended => exact change_clear .off (by simp) (by simp [hpending]) htimer

/-- To cancel the timer arms none. -/
theorem armed?_cancelTimer (h : turn.transition.timer.armed? = none) :
    turn.cancelTimer.transition.timer.armed? = none := by
  rw [transition_cancelTimer]; split
  · rfl
  · exact h

/-- What is changed after the timer is cancelled is changed. -/
theorem change_of_cancelTimer {machine : Machine} {request : Option TimerRequest}
    (h : Change turn.cancelTimer.machine machine request) :
    Change turn.machine machine request := by
  rw [machine_cancelTimer] at h; exact h.of_pending

theorem Attempted.change (h : Attempted world device attempt turn after)
    (htimer : turn.transition.timer.armed? = none) :
    Change turn.machine after.machine after.transition.timer.armed? := by
  apply change_of_cancelTimer
  cases h with
  | accepted =>
    exact .arm ⟨turn.cancelTimer.machine.generation + 1, .confirmation, device, attempt⟩ rfl
  | refused _ hsettled => exact hsettled.change (by simp) (armed?_cancelTimer htimer)

theorem Vacated.change (h : Vacated world device turn after)
    (htimer : turn.transition.timer.armed? = none) :
    Change turn.machine after.machine after.transition.timer.armed? := by
  have hcancelled := armed?_cancelTimer htimer
  cases h with
  | handOver _ hattempted => exact change_of_cancelTimer (hattempted.change hcancelled)
  | off => exact change_clear .off (by simp) (by simp) hcancelled

/-! ## What an event changes -/

/-- The timer that an expiry is for. -/
theorem matching?_eq_some {kind : TimerKind} {generation : UInt64} {timer : PendingTimer}
    (h : turn.matching? kind generation = some timer) :
    turn.machine.pending = some timer ∧ timer.kind = kind ∧ timer.generation = generation ∧
      turn.machine.route = timer.route := by
  obtain ⟨hpending, hmatch⟩ := Option.filter_eq_some_iff.1 h
  simp only [Bool.and_eq_true, decide_eq_true_eq] at hmatch
  obtain ⟨⟨hgeneration, hkind⟩, hroute⟩ := hmatch
  refine ⟨hpending, hkind, hgeneration, ?_⟩
  rw [PendingTimer.route, hkind]
  cases kind with
  | confirmation => exact beq_iff_eq.1 hroute
  | retry => exact Route.isOff_iff.1 hroute

/-- An event that does not change the machine leaves the timer and the headset alone. -/
def Unchanged (machine : Machine) (turn : Turn) : Prop :=
  turn.machine = machine ∧ turn.transition.timer = .keep ∧ turn.issued = []

theorem Outcome.change {event : Event} (h : Outcome world turn event after)
    (hsound : turn.machine.Sound) (htimer : turn.transition.timer = .keep)
    (hissued : turn.issued = []) :
    Unchanged turn.machine after ∨
      Change turn.machine after.machine after.transition.timer.armed? := by
  have harmed : turn.transition.timer.armed? = none := by rw [htimer]; rfl
  have hcancelled := armed?_cancelTimer harmed
  cases h with
  | connect _ _ hattempted =>
    exact .inr (change_of_cancelTimer (hattempted.change hcancelled))
  | noTarget hroute | unknownTarget hroute | stayOff hroute =>
    exact .inr (change_clear .off (by simp) (by simp [hroute]) hcancelled)
  | routed | stale => exact .inl ⟨rfl, htimer, hissued⟩
  | switch _ _ _ hattempted => exact .inr (hattempted.change harmed)
  | unknownSwitch => exact .inl ⟨by simp, by simp [htimer], by simp [hissued]⟩
  | disconnect => exact .inr (change_clear .off (by simp) (by simp) hcancelled)
  | added => exact .inl ⟨by simp, by simp [htimer], by simp [hissued]⟩
  | lost _ hvacated => exact .inr (by simpa using hvacated.change harmed)
  | lostPending hroute hpending hdevice =>
    have hoff := hsound.off_of_not_routed hpending (hdevice ▸ hroute)
    exact .inr (change_clear .off (by simp) (by simp [hoff]) (by simpa using hcancelled))
  | lostOther => exact .inl ⟨by simp, by simp [htimer], by simp [hissued]⟩
  | @confirmed device =>
    have h : (turn.checkReport world device).transition.timer.armed? = none := by
      simpa using harmed
    exact .inr (change_clear (.connected device) (by simp) (by simp) (armed?_cancelTimer h))
  | confirmedAgain => exact .inl ⟨by simp, by simp [htimer], by simp [hissued]⟩
  | dropped _ hvacated => exact .inr (by simpa using hvacated.change (by simpa using harmed))
  | droppedOther => exact .inl ⟨by simp, by simp [htimer], by simp [hissued]⟩
  | timedOut hmatching hsettled =>
    exact .inr (.of_pending (hsettled.change rfl harmed))
  | retried _ _ hattempted => exact .inr (.of_pending (hattempted.change harmed))
  | retryGone hmatching =>
    obtain ⟨-, hkind, -, hroute⟩ := matching?_eq_some hmatching
    have hoff : turn.machine.route = .off := by rw [hroute, PendingTimer.route, hkind]
    exact .inr (change_consumeTimer hoff harmed)

end Turn

namespace Machine

/-- **An event changes nothing, or clears the timer, or arms one.** -/
theorem process_change {machine : Machine} (h : machine.Sound) (world : Surroundings)
    (event : Event) :
    (machine.process world event).Unchanged machine ∨
      Change machine (machine.process world event).machine
        (machine.process world event).transition.timer.armed? := by
  obtain ⟨after, houtcome, heq⟩ := Turn.process_outcome world machine event
  rw [heq]
  exact houtcome.change h rfl rfl

/-- A route that is accepted is entered. -/
theorem enter_of_force {machine : Machine} {directory : Directory} {route : Route}
    {result : Machine × Option TimerRequest} (h : machine.force directory route = .ok result) :
    machine.enter route = result := by
  unfold force at h
  split at h
  · split at h
    · exact Except.ok.inj h
    · cases h
  · exact Except.ok.inj h

/-- A route that is entered from outside clears the timer or arms one. -/
theorem force_change {machine after : Machine} {directory : Directory} {route : Route}
    {request : Option TimerRequest} (h : machine.force directory route = .ok (after, request)) :
    Change machine after request := by
  have henter := enter_of_force h
  cases route with
  | off => cases henter; exact .clear .off (by simp)
  | connecting device =>
    cases henter; exact .arm ⟨machine.generation + 1, .confirmation, device, 0⟩ rfl
  | connected device => cases henter; exact .clear (.connected device) (by simp)

end Machine

end CallAudio
