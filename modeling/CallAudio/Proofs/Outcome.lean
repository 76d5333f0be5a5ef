/-
  What one event can lead to.

  * `Settled`: what becomes of a failed attempt;
  * `Attempted`: what becomes of a request to open audio;
  * `Vacated`: what becomes of a route that is lost;
  * `Outcome`: what becomes of an event, one constructor for each way that an event can go.
    `handle_outcome` says that there is no other way.

  Every way is written with the effects of which the handlers are made, so that a field of
  the turn after it is read off with the equations of the first section.
-/
import CallAudio.Machine.Process

namespace CallAudio.Turn

/-! ## Effects -/

section
variable (turn : Turn) (notice : Notice) (fault : Fault) (route : Route) (command : Command)
  (kind : TimerKind) (device : Device) (attempt : Nat) (world : Surroundings)

@[simp] theorem machine_notify : (turn.notify notice).machine = turn.machine := rfl

@[simp] theorem issued_notify : (turn.notify notice).issued = turn.issued := rfl

@[simp] theorem transition_notify :
    (turn.notify notice).transition =
      { turn.transition with notices := turn.transition.notices ++ [notice] } := rfl

@[simp] theorem machine_blame : (turn.blame fault).machine = turn.machine := rfl

@[simp] theorem issued_blame : (turn.blame fault).issued = turn.issued := rfl

@[simp] theorem transition_blame :
    (turn.blame fault).transition =
      { turn.transition with fault := turn.transition.fault <|> some fault } := rfl

@[simp] theorem machine_moveTo : (turn.moveTo route).machine = { turn.machine with route } := rfl

@[simp] theorem issued_moveTo : (turn.moveTo route).issued = turn.issued := rfl

@[simp] theorem transition_moveTo : (turn.moveTo route).transition = turn.transition := rfl

@[simp] theorem machine_consumeTimer :
    turn.consumeTimer.machine = { turn.machine with pending := none } := rfl

@[simp] theorem issued_consumeTimer : turn.consumeTimer.issued = turn.issued := rfl

@[simp] theorem transition_consumeTimer :
    turn.consumeTimer.transition = turn.transition := rfl

@[simp] theorem machine_cancelTimer :
    turn.cancelTimer.machine = { turn.machine with pending := none } := by
  unfold cancelTimer; split
  · next h => rw [← h]
  · rfl

@[simp] theorem issued_cancelTimer : turn.cancelTimer.issued = turn.issued := by
  unfold cancelTimer; split <;> rfl

@[simp] theorem transition_cancelTimer :
    turn.cancelTimer.transition =
      { turn.transition with
        timer := if turn.machine.pending.isSome then .cancel else turn.transition.timer } := by
  unfold cancelTimer; split <;> simp [*]

@[simp] theorem machine_arm :
    (turn.arm kind device attempt).machine = (turn.machine.arm kind device attempt).1 := rfl

@[simp] theorem issued_arm : (turn.arm kind device attempt).issued = turn.issued := rfl

@[simp] theorem transition_arm :
    (turn.arm kind device attempt).transition =
      { turn.transition with timer := .arm (turn.machine.arm kind device attempt).2 } := rfl

@[simp] theorem machine_issue : (turn.issue command).machine = turn.machine := rfl

@[simp] theorem issued_issue : (turn.issue command).issued = turn.issued ++ [command] := rfl

@[simp] theorem transition_issue :
    (turn.issue command).transition = { turn.transition with command := some command } := rfl

@[simp] theorem machine_checkReport : (turn.checkReport world device).machine = turn.machine := by
  unfold checkReport; split <;> rfl

@[simp] theorem issued_checkReport : (turn.checkReport world device).issued = turn.issued := by
  unfold checkReport; split <;> rfl

@[simp] theorem transition_checkReport :
    (turn.checkReport world device).transition =
      { turn.transition with
        fault := if world.directory.contains device then turn.transition.fault
          else turn.transition.fault <|> some (.inconsistentReport device) } := by
  unfold checkReport; split <;> simp [*]

@[simp] theorem machine_onDeviceAdded : (turn.onDeviceAdded world).machine = turn.machine := by
  simp only [onDeviceAdded]; split <;> rfl

@[simp] theorem issued_onDeviceAdded : (turn.onDeviceAdded world).issued = turn.issued := by
  simp only [onDeviceAdded]; split <;> rfl

@[simp] theorem transition_onDeviceAdded :
    (turn.onDeviceAdded world).transition =
      { turn.transition with
        notices := turn.transition.notices ++ .deviceListChanged ::
          if world.directory.count = 1 then [.deviceAvailable] else [] } := by
  simp only [onDeviceAdded]; split <;> simp

@[simp] theorem machine_reportLoss : (turn.reportLoss world).machine = turn.machine := by
  simp only [reportLoss]; split <;> rfl

@[simp] theorem issued_reportLoss : (turn.reportLoss world).issued = turn.issued := by
  simp only [reportLoss]; split <;> rfl

@[simp] theorem transition_reportLoss :
    (turn.reportLoss world).transition =
      { turn.transition with
        notices := turn.transition.notices ++ .deviceListChanged ::
          if world.directory.count = 0 then [.deviceUnavailable] else [] } := by
  simp only [reportLoss]; split <;> simp

@[simp] theorem machine_start (machine : Machine) (event : EventKind) :
    (start machine event).machine = machine := rfl

@[simp] theorem issued_start (machine : Machine) (event : EventKind) :
    (start machine event).issued = [] := rfl

@[simp] theorem command_start (machine : Machine) (event : EventKind) :
    (start machine event).transition.command = none := rfl

@[simp] theorem notices_start (machine : Machine) (event : EventKind) :
    (start machine event).transition.notices = [] := rfl

@[simp] theorem timer_start (machine : Machine) (event : EventKind) :
    (start machine event).transition.timer = .keep := rfl

@[simp] theorem fault_start (machine : Machine) (event : EventKind) :
    (start machine event).transition.fault = none := rfl

@[simp] theorem machine_finish : turn.finish.machine = turn.machine := rfl

@[simp] theorem issued_finish : turn.finish.issued = turn.issued := rfl

@[simp] theorem transition_finish :
    turn.finish.transition = { turn.transition with target := turn.machine.route } := rfl

end

/-! ## Attempts -/

section
variable (world : Surroundings)

/-- What becomes of a failed attempt on `device`. -/
inductive Settled (device : Device) (attempt : Nat) (turn : Turn) : Turn → Prop
  /-- The stack reports audio on a device. -/
  | active {other : Device} (hactive : world.headset.active? = some other) :
      Settled device attempt turn ((turn.moveTo (.connected other)).notify .audioConnected)
  /-- Audio is off, and the device will be tried again. -/
  | retry (hactive : world.headset.active? = none)
      (hleft : attempt < turn.machine.timeouts.retries)
      (hlisted : world.directory.contains device = true) :
      Settled device attempt turn
        (((turn.moveTo .off).notify .audioDisconnected).arm .retry device (attempt + 1))
  /-- Audio is off. -/
  | ended (hactive : world.headset.active? = none)
      (hended : attempt < turn.machine.timeouts.retries →
        world.directory.contains device = false) :
      Settled device attempt turn ((turn.moveTo .off).notify .audioDisconnected)

/-- What becomes of a request to open audio to `device`. -/
inductive Attempted (device : Device) (attempt : Nat) (turn : Turn) : Turn → Prop
  /-- The headset accepts, and the device has to confirm. -/
  | accepted (haccepts : world.headset.accepts device = true) :
      Attempted device attempt turn
        ((((turn.cancelTimer.issue (.connectAudio device)).moveTo (.connecting device)).arm
          .confirmation device attempt).notify .audioConnected)
  /-- The headset refuses. -/
  | refused {after : Turn} (hrefuses : world.headset.accepts device = false)
      (hsettled : Settled world device attempt
        ((turn.cancelTimer.issue (.connectAudio device)).blame (.commandRejected device)) after) :
      Attempted device attempt turn after

/-- What becomes of a route that `device` had. -/
inductive Vacated (device : Device) (turn : Turn) : Turn → Prop
  /-- Another device is asked to take over. -/
  | handOver {candidate : Device} {after : Turn}
      (hcandidate : world.directory.fallback? device = some candidate)
      (hattempted : Attempted world candidate 0 turn.cancelTimer after) :
      Vacated device turn after
  /-- There is no other device. -/
  | off (hnone : world.directory.fallback? device = none) :
      Vacated device turn ((turn.cancelTimer.moveTo .off).notify .audioDisconnected)

theorem settleFailure_settled (device : Device) (attempt : Nat) (turn : Turn) :
    Settled world device attempt turn (turn.settleFailure world device attempt) := by
  unfold settleFailure
  split
  · next h => exact .active h
  · next h =>
    by_cases hr : attempt < turn.machine.timeouts.retries ∧
        world.directory.contains device = true
    · exact (if_pos hr : ite _ _ _ = _) ▸ .retry h hr.1 hr.2
    · exact (if_neg hr : ite _ _ _ = _) ▸ .ended h fun hl => by simpa [hl] using hr

theorem beginConnect_attempted (device : Device) (attempt : Nat) (turn : Turn) :
    Attempted world device attempt turn (turn.beginConnect world device attempt) := by
  simp only [beginConnect]
  split
  · next h => exact .accepted h
  · next h => exact .refused (by simpa using h) (settleFailure_settled ..)

theorem fallBack_vacated (device : Device) (turn : Turn) :
    Vacated world device turn (turn.fallBack world device) := by
  unfold fallBack
  split
  · next h => exact .handOver h (beginConnect_attempted ..)
  · next h => exact .off h

/-! ## Events -/

/-- What becomes of an event. -/
inductive Outcome (turn : Turn) : Event → Turn → Prop
  /-- A request while off, and there is a target. -/
  | connect {requested : Option Device} {target : Device} {after : Turn}
      (hroute : turn.machine.route = .off)
      (htarget : world.directory.selectTarget requested = .ok (some target))
      (hattempted : Attempted world target 0 turn.cancelTimer after) :
      Outcome turn (.connect requested) after
  /-- A request while off that names no device, and there is none. -/
  | noTarget (hroute : turn.machine.route = .off)
      (htarget : world.directory.selectTarget none = .ok none) :
      Outcome turn (.connect none) (turn.cancelTimer.notify .audioDisconnected)
  /-- A request while off for a device that is not connected. -/
  | unknownTarget {device : Device} (hroute : turn.machine.route = .off)
      (hunknown : world.directory.contains device = false) :
      Outcome turn (.connect (some device))
        ((turn.cancelTimer.blame (.unknownDevice device)).notify .audioDisconnected)
  /-- A request for nothing new. -/
  | routed {requested : Option Device} {current : Device}
      (hroute : turn.machine.route.device? = some current)
      (hrequested : requested = none ∨ requested = some current) :
      Outcome turn (.connect requested) turn
  /-- A request for another device than the current one. -/
  | switch {current device : Device} {after : Turn}
      (hroute : turn.machine.route.device? = some current) (hne : device ≠ current)
      (hlisted : world.directory.contains device = true)
      (hattempted : Attempted world device 0 turn after) :
      Outcome turn (.connect (some device)) after
  /-- A request for another device, which is not connected. -/
  | unknownSwitch {current device : Device}
      (hroute : turn.machine.route.device? = some current) (hne : device ≠ current)
      (hunknown : world.directory.contains device = false) :
      Outcome turn (.connect (some device)) (turn.blame (.unknownDevice device))
  /-- A request to take audio off while it is off. -/
  | stayOff (hroute : turn.machine.route = .off) : Outcome turn .disconnect turn.cancelTimer
  /-- A request to take audio off. -/
  | disconnect (hroute : turn.machine.route ≠ .off) :
      Outcome turn .disconnect
        (((turn.cancelTimer.issue .disconnectAudio).moveTo .off).notify .audioDisconnected)
  /-- A device connected. -/
  | added {device : Device} : Outcome turn (.deviceAdded device) (turn.onDeviceAdded world)
  /-- The device that has the route disconnected. -/
  | lost {device : Device} {after : Turn}
      (hroute : turn.machine.route.isRoutedTo device = true)
      (hvacated : Vacated world device turn after) :
      Outcome turn (.deviceLost device) (after.reportLoss world)
  /-- A device disconnected for which the outstanding timer was armed. -/
  | lostPending {device : Device} {timer : PendingTimer}
      (hroute : turn.machine.route.isRoutedTo device = false)
      (hpending : turn.machine.pending = some timer) (hdevice : timer.device = device) :
      Outcome turn (.deviceLost device) (turn.cancelTimer.reportLoss world)
  /-- A device disconnected that has neither. -/
  | lostOther {device : Device} (hroute : turn.machine.route.isRoutedTo device = false)
      (hpending : ∀ timer, turn.machine.pending = some timer → timer.device ≠ device) :
      Outcome turn (.deviceLost device) (turn.reportLoss world)
  /-- Audio is confirmed on a device. -/
  | confirmed {device : Device} (hroute : turn.machine.route ≠ .connected device) :
      Outcome turn (.audioOn device)
        (((turn.checkReport world device).cancelTimer.moveTo (.connected device)).notify
          .audioConnected)
  /-- Audio is confirmed once more. -/
  | confirmedAgain {device : Device} (hroute : turn.machine.route = .connected device) :
      Outcome turn (.audioOn device) (turn.checkReport world device)
  /-- The device that has the route lost audio. -/
  | dropped {device : Device} {after : Turn}
      (hroute : turn.machine.route.isRoutedTo device = true)
      (hvacated : Vacated world device (turn.checkReport world device) after) :
      Outcome turn (.audioLost device) after
  /-- A device lost audio that does not have the route. -/
  | droppedOther {device : Device} (hroute : turn.machine.route.isRoutedTo device = false) :
      Outcome turn (.audioLost device) (turn.checkReport world device)
  /-- The expiry of a timer that is not outstanding. -/
  | stale {kind : TimerKind} {generation : UInt64}
      (hstale : turn.matching? kind generation = none) :
      Outcome turn (.expired kind generation) turn
  /-- A device did not confirm in time. -/
  | timedOut {timer : PendingTimer} {generation : UInt64} {after : Turn}
      (hmatching : turn.matching? .confirmation generation = some timer)
      (hsettled : Settled world timer.device timer.attempt
        (turn.consumeTimer.blame (.confirmationTimeout timer.device)) after) :
      Outcome turn (.expired .confirmation generation) after
  /-- A device is tried again. -/
  | retried {timer : PendingTimer} {generation : UInt64} {after : Turn}
      (hmatching : turn.matching? .retry generation = some timer)
      (hlisted : world.directory.contains timer.device = true)
      (hattempted : Attempted world timer.device timer.attempt turn.consumeTimer after) :
      Outcome turn (.expired .retry generation) after
  /-- A device that should be tried again is gone. -/
  | retryGone {timer : PendingTimer} {generation : UInt64}
      (hmatching : turn.matching? .retry generation = some timer)
      (hgone : world.directory.contains timer.device = false) :
      Outcome turn (.expired .retry generation) turn.consumeTimer

theorem connect_outcome {turn : Turn} (hroute : turn.machine.route = .off)
    (requested : Option Device) :
    Outcome world turn (.connect requested) (turn.handle world (.connect requested)) := by
  simp only [handle, onConnect, hroute, Route.device?, connectFromOff]
  cases requested with
  | none =>
    split
    · next h => exact .connect hroute h (beginConnect_attempted ..)
    · next h => exact .noTarget hroute h
    · next h => simp [Directory.selectTarget] at h
  | some device =>
    by_cases hlisted : world.directory.contains device = true
    · rw [Directory.selectTarget, if_pos hlisted]
      exact .connect hroute (by rw [Directory.selectTarget, if_pos hlisted])
        (beginConnect_attempted ..)
    · rw [Directory.selectTarget, if_neg hlisted]
      exact .unknownTarget hroute (by simpa using hlisted)

theorem switchTo_outcome {turn : Turn} {current device : Device}
    (hroute : turn.machine.route.device? = some current) (hne : device ≠ current) :
    Outcome world turn (.connect (some device)) (turn.switchTo world device) := by
  by_cases hlisted : world.directory.contains device = true
  · rw [switchTo, Directory.selectTarget, if_pos hlisted]
    exact .switch hroute hne hlisted (beginConnect_attempted ..)
  · rw [switchTo, Directory.selectTarget, if_neg hlisted]
    exact .unknownSwitch hroute hne (by simpa using hlisted)

/-- **Every event goes one of the ways of `Outcome`.** -/
theorem handle_outcome (turn : Turn) (event : Event) :
    Outcome world turn event (turn.handle world event) := by
  cases event with
  | connect requested =>
    cases hroute : turn.machine.route.device? with
    | none => exact connect_outcome world (Route.device?_eq_none_iff.1 hroute) requested
    | some current =>
      cases requested with
      | none => simp only [handle, onConnect, hroute]; exact .routed hroute (.inl rfl)
      | some device =>
        simp only [handle, onConnect, hroute]
        split
        · next h => exact .routed hroute (.inr (by rw [h]))
        · next h => exact switchTo_outcome world hroute h
  | disconnect =>
    simp only [handle, onDisconnect, machine_cancelTimer]
    split
    · next h => exact .stayOff (Route.isOff_iff.1 h)
    · next h => exact .disconnect fun hoff => h (Route.isOff_iff.2 hoff)
  | deviceAdded device => exact .added
  | deviceLost device =>
    simp only [handle, onDeviceLost, leaveLost]
    split
    · next h => exact .lost h (fallBack_vacated ..)
    · next h =>
      have hroute : turn.machine.route.isRoutedTo device = false := by simpa using h
      cases hpending : turn.machine.pending with
      | none => exact .lostOther hroute (by simp [hpending])
      | some timer =>
        by_cases hdevice : timer.device = device
        · simp only [Option.any_some, hdevice, decide_true, if_true]
          exact .lostPending hroute hpending hdevice
        · simp only [Option.any_some, hdevice, decide_false, Bool.false_eq_true, if_false]
          exact .lostOther hroute (by simpa [hpending] using hdevice)
  | audioOn device =>
    simp only [handle, onAudioOn, machine_checkReport]
    split
    · next h => exact .confirmedAgain h
    · next h => exact .confirmed h
  | audioLost device =>
    simp only [handle, onAudioLost, machine_checkReport]
    split
    · next h => exact .dropped h (fallBack_vacated ..)
    · next h => exact .droppedOther (by simpa using h)
  | expired kind generation =>
    cases hmatching : turn.matching? kind generation with
    | none => simp only [handle, onExpired, hmatching]; exact .stale hmatching
    | some timer =>
      cases kind with
      | confirmation =>
        simp only [handle, onExpired, hmatching]
        exact .timedOut hmatching (settleFailure_settled ..)
      | retry =>
        simp only [handle, onExpired, hmatching, onRetry]
        split
        · next h => exact .retried hmatching h (beginConnect_attempted ..)
        · next h => exact .retryGone hmatching (by simpa using h)

/-- What `Machine.process` makes of an event is the end of one of its ways. -/
theorem process_outcome (machine : Machine) (event : Event) :
    ∃ after, Outcome world (start machine event.kind) event after ∧
      machine.process world event = after.finish :=
  ⟨_, handle_outcome world _ event, rfl⟩

end

end CallAudio.Turn
