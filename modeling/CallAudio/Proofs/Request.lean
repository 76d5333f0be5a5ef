/-
  Requests for audio.

  A request finds the route off or with a device, names its target or leaves it to the directory,
  and is accepted or refused.  While the route is off, whatever was planned is dropped before the
  target is looked for; while a device has the route, only once there is a target.

  * `Directory.target?`: the device that a request is for, if there is one;
  * `Machine.timerAfter`: the timer that an attempt leaves outstanding;
  * `Turn.Attempted.route_eq`, `pending_eq`, `fault_eq`, `timer_eq`: what an attempt comes to;
  * `Route.Serves`: the requests that ask for nothing new; `Machine.process_served`,
    `Machine.process_targeted`, `Machine.process_untargeted`: what becomes of these, of those with
    a target, and of those without;
  * `Router.requested_audio`: all of it, for every router that can be reached.
-/
import CallAudio.Proofs.Notices
import CallAudio.Proofs.Provenance

namespace CallAudio

/-- The device that a request is for: the named one, or else the one connected last, if the
    directory lists it. -/
def Directory.target? (directory : Directory) (requested : Option Device) : Option Device :=
  (requested <|> directory.mostRecent none).filter directory.contains

theorem Directory.target?_some (directory : Directory) (device : Device) :
    directory.target? (some device) =
      if directory.contains device then some device else none :=
  Option.filter_some

theorem Directory.selectTarget_eq_some_iff {directory : Directory} {requested : Option Device}
    {target : Device} :
    directory.selectTarget requested = .ok (some target) ↔
      directory.target? requested = some target := by
  cases requested with
  | none => simp [selectTarget, target?]
  | some device =>
    rw [target?_some, selectTarget]
    split <;> simp

/-- The timer that an attempt on `device` leaves outstanding, for which `attempt` retries are
    spent. -/
def Machine.timerAfter (machine : Machine) (world : Surroundings) (device : Device)
    (attempt : Nat) : Option PendingTimer :=
  if world.headset.accepts device then
    some ⟨machine.generation + 1, .confirmation, device, attempt⟩
  else if world.headset.active? = none ∧ attempt < machine.timeouts.retries ∧
      world.directory.contains device then
    some ⟨machine.generation + 1, .retry, device, attempt + 1⟩
  else none

namespace Turn

variable {world : Surroundings} {turn after : Turn} {device target : Device} {attempt : Nat}
  {requested : Option Device}

/-! ## Attempts -/

/-- To cancel the timer twice is to cancel it once. -/
@[simp] theorem cancelTimer_cancelTimer : turn.cancelTimer.cancelTimer = turn.cancelTimer := by
  rw [cancelTimer.eq_def turn.cancelTimer]
  simp

theorem Attempted.of_cancelTimer (h : Attempted world device attempt turn.cancelTimer after) :
    Attempted world device attempt turn after := by
  cases h with
  | accepted haccepts => rw [cancelTimer_cancelTimer]; exact .accepted haccepts
  | refused hrefuses hsettled =>
    rw [cancelTimer_cancelTimer] at hsettled; exact .refused hrefuses hsettled

theorem Attempted.route_eq (h : Attempted world device attempt turn after) :
    after.machine.route =
      if world.headset.accepts device then .connecting device else world.headset.reported := by
  cases h with
  | accepted haccepts => simp [haccepts, Machine.arm]
  | refused hrefuses hsettled => simp [hrefuses, hsettled.route_eq]

theorem Attempted.pending_eq (h : Attempted world device attempt turn after) :
    after.machine.pending = turn.machine.timerAfter world device attempt := by
  cases h with
  | accepted haccepts => simp [haccepts, Machine.timerAfter, Machine.arm]
  | refused hrefuses hsettled =>
    cases hsettled with
    | active hactive => simp [hrefuses, hactive, Machine.timerAfter]
    | retry hactive hleft hlisted =>
      have hleft : attempt < turn.machine.timeouts.retries := by simpa using hleft
      simp [hrefuses, hactive, hleft, hlisted, Machine.timerAfter, Machine.arm]
    | ended hactive hended =>
      have hended : attempt < turn.machine.timeouts.retries →
          world.directory.contains device = false := by simpa using hended
      simp [hrefuses, hactive, Machine.timerAfter]
      exact hended

theorem Attempted.fault_eq (h : Attempted world device attempt turn after) :
    after.transition.fault =
      (turn.transition.fault <|>
        if world.headset.accepts device then none else some (.commandRejected device)) := by
  cases h with
  | accepted haccepts => simp [haccepts]
  | refused hrefuses hsettled => simp [hrefuses, hsettled.fault_eq]

/-- The owner has the timer armed that the attempt leaves outstanding; without one it drops the
    timer of before. -/
theorem Attempted.timer_eq (h : Attempted world device attempt turn after) :
    after.transition.timer =
      match after.machine.pending with
      | some timer => .arm (timer.request turn.machine.timeouts)
      | none => if turn.machine.pending.isSome then .cancel else turn.transition.timer := by
  cases h with
  | accepted => simp [Machine.arm, PendingTimer.request]
  | refused _ hsettled => cases hsettled <;> simp [Machine.arm, PendingTimer.request]

end Turn

/-! ## Requests -/

/-- A request asks for nothing new if a device has the route and no other one is named. -/
def Route.Serves (route : Route) (requested : Option Device) : Prop :=
  ∃ current, route.device? = some current ∧ (requested = none ∨ requested = some current)

namespace Machine

variable {machine : Machine} {world : Surroundings} {requested : Option Device} {target : Device}

/-- A request for nothing new does nothing. -/
theorem process_served (h : machine.route.Serves requested) (world : Surroundings) :
    machine.process world (.connect requested) =
      { machine, transition := .start .connect machine.route } := by
  obtain ⟨current, hroute, hrequested⟩ := h
  have hnothing : (Turn.start machine .connect).onConnect world requested =
      .start machine .connect := by
    rcases hrequested with rfl | rfl <;> simp [Turn.onConnect, hroute]
  exact congrArg Turn.finish hnothing

/-- A request with a target is an attempt on it. -/
theorem process_targeted (hnew : ¬ machine.route.Serves requested)
    (htarget : world.directory.target? requested = some target) :
    ∃ after, Turn.Attempted world target 0 (.start machine .connect) after ∧
      machine.process world (.connect requested) = after.finish := by
  obtain ⟨after, houtcome, heq⟩ := Turn.process_outcome world machine (.connect requested)
  refine ⟨after, ?_, heq⟩
  cases houtcome with
  | connect _ hselected hattempted =>
    rw [Directory.selectTarget_eq_some_iff, htarget] at hselected
    cases hselected
    exact hattempted.of_cancelTimer
  | noTarget _ hnone =>
    rw [← Directory.selectTarget_eq_some_iff, hnone] at htarget
    cases htarget
  | unknownTarget _ hunknown => simp [Directory.target?_some, hunknown] at htarget
  | routed hroute hrequested => exact absurd ⟨_, hroute, hrequested⟩ hnew
  | switch _ _ hlisted hattempted =>
    rw [Directory.target?_some, if_pos hlisted] at htarget
    cases htarget
    exact hattempted
  | unknownSwitch _ _ hunknown => simp [Directory.target?_some, hunknown] at htarget

/-- A request without a target drops what was planned while the route is off, and leaves the
    device that has the route alone. -/
theorem process_untargeted (hnew : ¬ machine.route.Serves requested)
    (htarget : world.directory.target? requested = none) :
    let turn := machine.process world (.connect requested)
    turn.issued = [] ∧ turn.transition.command = none ∧
    turn.transition.fault = requested.map .unknownDevice ∧
    (machine.route = .off →
      turn.machine = { machine with pending := none } ∧
      turn.transition.timer = (if machine.pending.isSome then .cancel else .keep) ∧
      turn.transition.notices = [.audioDisconnected]) ∧
    (machine.route ≠ .off →
      turn.machine = machine ∧ turn.transition.timer = .keep ∧ turn.transition.notices = []) := by
  intro turn
  obtain ⟨after, houtcome, heq⟩ := Turn.process_outcome world machine (.connect requested)
  have hturn : turn = after.finish := heq
  rw [hturn]
  cases houtcome with
  | connect _ hselected =>
    rw [Directory.selectTarget_eq_some_iff, htarget] at hselected
    cases hselected
  | noTarget hroute | unknownTarget hroute =>
    have hroute : machine.route = .off := hroute
    simp [hroute, Turn.start, Transition.start]
  | routed hroute hrequested => exact absurd ⟨_, hroute, hrequested⟩ hnew
  | switch _ _ hlisted => simp [Directory.target?_some, hlisted] at htarget
  | unknownSwitch hroute =>
    have hroute : machine.route ≠ .off := fun hoff => by simp [hoff, Route.device?] at hroute
    simp [hroute]

end Machine

/-! ## Routers -/

namespace Router

/-- **What becomes of a request.**  To every router that can be reached, whatever the directory and
    the headset answer: while a device has the route, a request that names no other one does
    nothing at all.  Any other request is for the named device, or else the one connected last, if
    the directory lists it.  With such a target the headset receives one command, to connect it,
    and the timer of before is outstanding no more.  If that is accepted the target has to confirm,
    on its first attempt; if not, the target is blamed, and audio is connected on the first device
    that is active, or off without one, and then the target is tried again if retries are allowed.
    Without a target the headset receives nothing, and a device that was named is blamed for not
    being connected; then a route that is off stays off, what was planned is dropped and the
    listener hears that audio is off, while a route that a device has stays as it is, and so does
    the timer. -/
theorem requested_audio (timeouts : Timeouts) (inputs : List Input) :
    let router := (Router.new timeouts).run inputs
    let next := router.machine.generation + 1
    ∀ world requested,
      let result := router.process world (.connect requested)
      let turn := result.2
      let active := world.headset.devices.find? world.headset.isActive
      let nothingNew := ∃ current, router.route.device? = some current ∧
        (requested = none ∨ requested = some current)
      (nothingNew → result = (router, {
        machine := router.machine
        transition := {
          event := .connect
          source := router.route
          target := router.route
          command := none
          notices := []
          timer := .keep
          fault := none }
        issued := [] })) ∧
      (¬ nothingNew →
        turn.transition.command.toList = turn.issued ∧
        match (requested <|> world.directory.mostRecent none).filter world.directory.contains with
        | some target =>
          turn.issued = [.connectAudio target] ∧
          turn.machine.route =
            (if world.headset.accepts target then .connecting target
            else match active with
              | some other => .connected other
              | none => .off) ∧
          turn.machine.pending =
            (if world.headset.accepts target then some ⟨next, .confirmation, target, 0⟩
            else if active = none ∧ 0 < timeouts.retries then
              some ⟨next, .retry, target, 1⟩
            else none) ∧
          turn.transition.fault =
            (if world.headset.accepts target then none else some (.commandRejected target)) ∧
          turn.transition.notices =
            [match turn.machine.route with
              | .off => .audioDisconnected
              | .connecting _ | .connected _ => .audioConnected] ∧
          turn.transition.timer =
            (match turn.machine.pending with
              | some timer => .arm ⟨timer.kind, timer.generation, timeouts.delay timer.kind⟩
              | none => if router.machine.pending.isSome then .cancel else .keep) ∧
          ∀ timer, router.machine.pending = some timer →
            ∀ kind, turn.machine.outstanding? kind timer.generation = none
        | none =>
          turn.issued = [] ∧
          turn.transition.fault = requested.map .unknownDevice ∧
          (router.route = .off →
            turn.machine = { router.machine with pending := none } ∧
            turn.transition.timer =
              (if router.machine.pending.isSome then .cancel else .keep) ∧
            turn.transition.notices = [.audioDisconnected]) ∧
          (router.route ≠ .off →
            turn.machine = router.machine ∧ turn.transition.timer = .keep ∧
            turn.transition.notices = [])) := by
  intro router next world requested result turn active nothingNew
  have haccounted := accounted_run timeouts inputs
  have hsound : router.machine.Sound := haccounted.sound
  have htimeouts : router.machine.timeouts = timeouts := haccounted.timeouts_eq
  refine ⟨fun hserved => ?_, fun hnew => ⟨?_, ?_⟩⟩
  · show router.process world (.connect requested) = _
    rw [Router.process, Machine.process_served hserved world]
    exact congrArg (·, _) (congrArg (Router.mk router.machine) (Notifier.dispatch_nil _))
  · exact (router.machine.process_issued world (.connect requested)).symm
  split
  · next target htarget =>
    obtain ⟨after, hattempted, heq⟩ := Machine.process_targeted hnew htarget
    have hturn : turn = after.finish := heq
    have hchange : router.machine.Change turn.machine after.transition.timer.armed? :=
      hturn ▸ hattempted.change rfl
    have hlisted : world.directory.contains target = true :=
      (Option.filter_eq_some_iff.1 htarget).2
    refine ⟨?_, ?_, ?_, ?_, ?_, ?_, fun timer hpending kind => ?_⟩
    · rw [hturn]; exact hattempted.issued_eq
    · rw [hturn]; exact hattempted.route_eq
    · rw [hturn, ← htimeouts]
      have hpending := hattempted.pending_eq
      simp only [Machine.timerAfter, hlisted, and_true] at hpending
      exact hpending
    · rw [hturn]; exact hattempted.fault_eq
    · rw [hturn]; exact hattempted.notices_eq
    · rw [hturn, ← htimeouts]; exact hattempted.timer_eq
    · exact hchange.outstanding?_eq_none hsound hpending kind
  · next htarget =>
    obtain ⟨hissued, -, hfault, hoff, hrouted⟩ := Machine.process_untargeted hnew htarget
    exact ⟨hissued, hfault, hoff, hrouted⟩

/-- Another device is asked for while one is connecting, and refused. -/
theorem requested_audio_refused :
    let world := (Stack.ofDevices [⟨"A"⟩, ⟨"B"⟩]).surroundings
    let refusing := ((Stack.ofDevices [⟨"A"⟩, ⟨"B"⟩]).setAccepts false).surroundings
    let router := (Router.new (.of (.ofMillis 5000) (.ofMillis 500) 1)).run
      [.event world (.connect none)]
    let requested : Option Device := some ⟨"B"⟩
    let turn := (router.process refusing (.connect requested)).2
    (¬ ∃ current, router.route.device? = some current ∧
        (requested = none ∨ requested = some current)) ∧
      router.machine.pending = some ⟨1, .confirmation, ⟨"A"⟩, 0⟩ ∧
      turn.issued = [.connectAudio ⟨"B"⟩] ∧ turn.machine.route = .off ∧
      turn.machine.pending = some ⟨2, .retry, ⟨"B"⟩, 1⟩ ∧
      turn.transition.fault = some (.commandRejected ⟨"B"⟩) ∧
      turn.machine.outstanding? .confirmation 1 = none := by
  intro world refusing router requested turn
  have hroute : router.route.device? = some ⟨"A"⟩ := by decide
  have hpending : router.machine.pending = some ⟨1, .confirmation, ⟨"A"⟩, 0⟩ := by decide
  have hnew : ¬ ∃ current, router.route.device? = some current ∧
      (requested = none ∨ requested = some current) := by
    rw [hroute]
    simp [requested]
  obtain ⟨-, htarget⟩ := requested_audio (.of (.ofMillis 5000) (.ofMillis 500) 1)
    [.event world (.connect none)] refusing requested
  obtain ⟨-, hissued, hends, hretry, hfault, -, -, hold⟩ := htarget hnew
  exact ⟨hnew, hpending, hissued, hends, hretry, hfault, hold _ hpending .confirmation⟩

end Router

end CallAudio
