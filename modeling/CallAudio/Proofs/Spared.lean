/-
  What leaves a route or a planned retry alone.

  When a device is lost that does not have the route, the machine looks whether its outstanding
  timer is for that device, whatever the timer waits for.  That only a retry can be dropped so is
  due to the route: a device that has to confirm has it.

  * `Machine.process_added`, `Machine.process_audioLost_other`, `Machine.process_deviceLost_other`:
    what devices do to the machine that do not have the route;
  * `Input.Spares`: the inputs that leave a planned retry alone;
  * `Moment.spared`, `Moment.spoiled`: they do, and any other input ends it;
  * `Router.run_spared`, `Router.run_spoiled`: so it is with any number of inputs;
  * `Machine.process_due_retry`: what the retry does when its time has come;
  * `Router.planned_retry`: all of it, for every router that can be reached.
-/
import CallAudio.Proofs.Entry

namespace CallAudio

/-- The events that leave a planned retry alone. -/
def Event.Spares (timer : PendingTimer) : Event → Prop
  | deviceAdded _ | audioLost _ => True
  | deviceLost device => device ≠ timer.device
  | expired kind generation => ¬ (timer.kind = kind ∧ timer.generation = generation)
  | connect _ | disconnect | audioOn _ => False

/-- The inputs that leave a planned retry alone.  A route that is entered from outside does so if
    it is refused. -/
def Input.Spares (timer : PendingTimer) : Input → Prop
  | .event _ occurred => occurred.Spares timer
  | .force directory route =>
    ∃ device, route.device? = some device ∧ directory.contains device = false
  | .listen _ => True

/-! ## Devices that do not have the route -/

namespace Machine

variable {machine : Machine} {world : Surroundings} {event : Event} {device : Device}
  {timer : PendingTimer}

/-- A device that comes changes nothing. -/
theorem process_added (machine : Machine) (world : Surroundings) (device : Device) :
    (machine.process world (.deviceAdded device)).Unchanged machine := by
  obtain ⟨after, houtcome, heq⟩ := Turn.process_outcome world machine (.deviceAdded device)
  rw [heq]
  cases houtcome with
  | added => exact ⟨by simp, by simp, by simp⟩

/-- The loss of audio on a device that does not have the route changes nothing. -/
theorem process_audioLost_other (hother : machine.route.isRoutedTo device = false)
    (world : Surroundings) : (machine.process world (.audioLost device)).Unchanged machine := by
  obtain ⟨after, houtcome, heq⟩ := Turn.process_outcome world machine (.audioLost device)
  rw [heq]
  cases houtcome with
  | dropped hroute => exact absurd hother (by simpa using hroute)
  | droppedOther => exact ⟨by simp, by simp, by simp⟩

/-- The loss of a device that does not have the route drops a timer for that device, and changes
    nothing else. -/
theorem process_deviceLost_other (hother : machine.route.isRoutedTo device = false)
    (world : Surroundings) :
    let turn := machine.process world (.deviceLost device)
    (turn.Unchanged machine ∧ ∀ timer, machine.pending = some timer → timer.device ≠ device) ∨
      ((∃ timer, machine.pending = some timer ∧ timer.device = device) ∧
        turn.machine = { machine with pending := none } ∧ turn.issued = [] ∧
        turn.transition.timer = .cancel) := by
  intro turn
  obtain ⟨after, houtcome, heq⟩ := Turn.process_outcome world machine (.deviceLost device)
  have hturn : turn = after.finish := heq
  rw [hturn]
  cases houtcome with
  | lost hroute => exact absurd hother (by simpa using hroute)
  | lostPending _ hpending hdevice =>
    have hpending : machine.pending = some _ := hpending
    exact .inr ⟨⟨_, hpending, hdevice⟩, by simp, by simp, by simp [hpending]⟩
  | lostOther _ hpending =>
    exact .inl ⟨⟨by simp, by simp, by simp⟩, hpending⟩

end Machine

/-! ## A planned retry -/

/-- A request, or a report that audio is on: it drops what was planned before. -/
def Event.AsksAnew : Event → Prop
  | connect _ | disconnect | audioOn _ => True
  | deviceAdded _ | deviceLost _ | audioLost _ | expired _ _ => False

/-- While the route is off, a request or a report that audio is on drops what was planned. -/
theorem Turn.Outcome.change_of_off {world : Surroundings} {turn after : Turn} {event : Event}
    (h : Outcome world turn event after) (hroute : turn.machine.route = .off)
    (htimer : turn.transition.timer.armed? = none) (hasks : event.AsksAnew) :
    turn.machine.Change after.machine after.transition.timer.armed? := by
  have hdropped := armed?_cancelTimer htimer
  cases h with
  | connect _ _ hattempted => exact change_of_cancelTimer (hattempted.change hdropped)
  | noTarget | unknownTarget | stayOff =>
    exact change_clear .off (by simp) (by simp [hroute]) hdropped
  | routed hcurrent | switch hcurrent | unknownSwitch hcurrent =>
    rw [hroute] at hcurrent
    cases hcurrent
  | disconnect hon => exact absurd hroute hon
  | @confirmed device =>
    have hchecked : (turn.checkReport world device).transition.timer.armed? = none := by
      simpa using htimer
    exact change_clear (.connected device) (by simp) (by simp) (armed?_cancelTimer hchecked)
  | confirmedAgain hon =>
    rw [hroute] at hon
    cases hon
  | _ => exact absurd hasks not_false

namespace Machine

variable {machine : Machine} {event : Event} {timer : PendingTimer}

/-- When the time for a retry has come, its device is tried again, or the retry is dropped if the
    device is gone. -/
theorem process_due_retry (hsound : machine.Sound) (hpending : machine.pending = some timer)
    (hretry : timer.kind = .retry) (world : Surroundings) :
    let turn := machine.process world (.expired .retry timer.generation)
    if world.directory.contains timer.device then
      turn.issued = [.connectAudio timer.device] ∧
        turn.transition.command = some (.connectAudio timer.device)
    else
      turn = { machine := { machine with pending := none },
               transition := .start (.expired .retry) machine.route } := by
  intro turn
  have hmatch := hsound.matching? hpending (.expired .retry)
  rw [hretry] at hmatch
  obtain ⟨after, houtcome, heq⟩ :=
    Turn.process_outcome world machine (.expired .retry timer.generation)
  have hturn : turn = after.finish := heq
  rw [hturn]
  cases houtcome with
  | stale hstale => exact absurd (hstale.symm.trans hmatch) (by simp)
  | retried hmatching hlisted hattempted =>
    cases hmatching.symm.trans hmatch
    rw [if_pos hlisted]
    exact ⟨hattempted.issued_eq, hattempted.command_eq⟩
  | retryGone hmatching hgone =>
    cases hmatching.symm.trans hmatch
    simp [hgone]
    rfl

theorem process_spared (hsound : machine.Sound) (hpending : machine.pending = some timer)
    (hretry : timer.kind = .retry) (h : event.Spares timer) (world : Surroundings) :
    (machine.process world event).Unchanged machine := by
  have hother (device : Device) : machine.route.isRoutedTo device = false := by
    rw [hsound.route_retry hpending hretry]; rfl
  cases event with
  | deviceAdded device => exact process_added machine world device
  | audioLost device => exact process_audioLost_other (hother device) world
  | deviceLost device =>
    rcases process_deviceLost_other (hother device) world with
      ⟨hunchanged, -⟩ | ⟨⟨lost, hlost, hdevice⟩, -⟩
    · exact hunchanged
    · cases hlost.symm.trans hpending
      exact absurd hdevice.symm h
  | expired kind generation =>
    have hnone : machine.outstanding? kind generation = none := by
      refine outstanding?_eq_none.2 fun other hother => ?_
      cases hother.symm.trans hpending
      exact h
    rw [process_stale hnone]
    exact ⟨rfl, rfl, rfl⟩
  | connect | disconnect | audioOn => exact absurd h not_false

theorem process_change_of_off (hroute : machine.route = .off) (hasks : event.AsksAnew)
    (world : Surroundings) :
    Change machine (machine.process world event).machine
      (machine.process world event).transition.timer.armed? := by
  obtain ⟨after, houtcome, heq⟩ := Turn.process_outcome world machine event
  rw [heq]
  exact houtcome.change_of_off hroute rfl hasks

/-- **Any other event ends a planned retry.** -/
theorem process_spoiled (hsound : machine.Sound) (hpending : machine.pending = some timer)
    (hretry : timer.kind = .retry) (h : ¬ event.Spares timer) (world : Surroundings) :
    Change machine (machine.process world event).machine
      (machine.process world event).transition.timer.armed? := by
  have hroute := hsound.route_retry hpending hretry
  cases event with
  | deviceAdded | audioLost => exact absurd trivial h
  | deviceLost device =>
    have hother : machine.route.isRoutedTo device = false := by rw [hroute]; rfl
    rcases process_deviceLost_other hother world with ⟨-, hkept⟩ | ⟨-, hmachine, -, htimer⟩
    · exact absurd (hkept timer hpending).symm h
    · rw [hmachine, htimer, show machine = { machine with route := .off } by rw [← hroute]]
      exact .clear .off (by simp)
  | expired kind generation =>
    obtain ⟨rfl, rfl⟩ := not_not.1 h
    exact (process_outstanding hsound hpending world).1
  | connect | disconnect | audioOn =>
    refine process_change_of_off hroute ?_ world
    exact trivial

end Machine

/-! ## Inputs and runs -/

namespace Moment

variable {moment : Moment} {timer : PendingTimer}

theorem spared (hsound : moment.before.machine.Sound)
    (hpending : moment.before.machine.pending = some timer) (hretry : timer.kind = .retry)
    (h : moment.input.Spares timer) :
    moment.after.machine = moment.before.machine ∧ moment.timer = .keep := by
  obtain ⟨router, input⟩ := moment
  cases input with
  | event world event =>
    obtain ⟨hmachine, htimer, -⟩ := Machine.process_spared hsound hpending hretry h world
    exact ⟨hmachine, htimer⟩
  | force directory route =>
    obtain ⟨device, hdevice, hunknown⟩ := h
    obtain ⟨hafter, htimer⟩ := @unchanged_of_unknown router _ _ _ hdevice hunknown
    exact ⟨congrArg Router.machine hafter, htimer⟩
  | listen listener => exact ⟨rfl, rfl⟩

theorem spoiled (hsound : moment.before.machine.Sound)
    (hpending : moment.before.machine.pending = some timer) (hretry : timer.kind = .retry)
    (h : ¬ moment.input.Spares timer) :
    moment.before.machine.Change moment.after.machine moment.armed? := by
  obtain ⟨router, input⟩ := moment
  cases input with
  | event world event => exact Machine.process_spoiled hsound hpending hretry h world
  | force directory route =>
    exact change_of_covers ((directory.covers_or_unknown route).resolve_right h)
  | listen listener => exact absurd trivial h

end Moment

namespace Router

variable {timeouts : Timeouts} {timer : PendingTimer} {router : Router}
  {inputs later : List Input}

theorem run_spared (hsound : router.machine.Sound) (hpending : router.machine.pending = some timer)
    (hretry : timer.kind = .retry) (h : ∀ input ∈ later, input.Spares timer) :
    (router.run later).machine = router.machine ∧
      ∀ moment ∈ router.moments later, moment.timer = .keep := by
  induction later generalizing router with
  | nil => exact ⟨rfl, fun moment hmem => (by cases hmem)⟩
  | cons input later ih =>
    set moment : Moment := ⟨router, input⟩
    obtain ⟨hafter, hkept⟩ : moment.after.machine = router.machine ∧ moment.timer = .keep :=
      Moment.spared hsound hpending hretry (h input List.mem_cons_self)
    obtain ⟨hrun, hrest⟩ := ih (hafter ▸ hsound) (hafter ▸ hpending) fun input hmem =>
      h input (.tail _ hmem)
    exact ⟨hrun.trans hafter, List.forall_mem_cons.2 ⟨hkept, hrest⟩⟩

/-- **Once it is not spared, a planned retry is never outstanding again.** -/
theorem run_spoiled (hpending : ((Router.new timeouts).run inputs).machine.pending = some timer)
    (hretry : timer.kind = .retry)
    (hroom : ((Router.new timeouts).armed (inputs ++ later)).length < UInt64.size)
    (h : ∃ input ∈ later, ¬ input.Spares timer) (kind : TimerKind) :
    ((Router.new timeouts).run (inputs ++ later)).machine.outstanding? kind
      timer.generation = none := by
  induction later generalizing inputs with
  | nil => simp at h
  | cons input later ih =>
    have haccounted := accounted_run timeouts inputs
    set moment : Moment := ⟨(Router.new timeouts).run inputs, input⟩
    by_cases hspares : input.Spares timer
    · -- the retry is left, and it is another input that ends it
      obtain ⟨hafter, -⟩ := moment.spared haccounted.sound hpending hretry hspares
      have hrun : (Router.new timeouts).run (inputs ++ [input]) = moment.after := by
        rw [run_append]; rfl
      have hlater : ∃ input ∈ later, ¬ input.Spares timer := by
        simpa [hspares] using h
      have hstep := @ih (inputs ++ [input]) (by rw [hrun, hafter]; exact hpending)
      rw [List.append_assoc, List.singleton_append] at hstep
      exact hstep hroom hlater
    · have hchange := moment.spoiled haccounted.sound hpending hretry hspares
      have harmed : timer.request timeouts ∈ (Router.new timeouts).armed inputs :=
        List.mem_of_getLast? (haccounted.last hpending)
      exact outstanding?_after_change hroom hchange harmed kind

/-- **A route and a planned retry are left alone by what is none of their business.**  To every
    router that can be reached, whatever the stack answers: a device that comes changes nothing;
    the loss of a device, or of audio on one, that does not have the route leaves the route alone,
    the headset receives nothing, and a device that has to confirm is still waited for.  While a
    retry is planned, audio is off.  The retry is left, with its timer, by as many inputs as there
    may be that spare it, and is then acted on when its time comes: its device is tried again if it
    is still connected, and nothing is done if it is not.  One input that does not spare it is
    enough, while the generation counter does not run over, for nothing to be done then. -/
theorem planned_retry (timeouts : Timeouts) (inputs : List Input) :
    let initial := Router.new timeouts
    let router := initial.run inputs
    let machine := router.machine
    (∀ world device, let turn := (router.process world (.deviceAdded device)).2
      turn.machine = machine ∧ turn.issued = [] ∧ turn.transition.timer = .keep) ∧
    (∀ world device event, router.route.device? ≠ some device →
      event = .deviceLost device ∨ event = .audioLost device →
      let turn := (router.process world event).2
      turn.machine.route = machine.route ∧ turn.machine.generation = machine.generation ∧
      turn.issued = [] ∧
      ∀ timer, machine.pending = some timer → timer.kind = .confirmation →
        turn.machine = machine ∧ turn.transition.timer = .keep) ∧
    ∀ timer, machine.pending = some timer → timer.kind = .retry →
      machine.route = .off ∧
      (∀ later, (∀ input ∈ later, input.Spares timer) →
        (router.run later).machine = machine ∧
        (∀ moment ∈ router.moments later, moment.timer = .keep) ∧
        ∀ world, let turn :=
            ((router.run later).process world (.expired .retry timer.generation)).2
          if world.directory.contains timer.device then
            turn.issued = [.connectAudio timer.device] ∧
              turn.transition.command = some (.connectAudio timer.device)
          else
            turn = {
              machine := { machine with pending := none }
              transition := {
                event := .expired .retry
                source := .off
                target := .off
                command := none
                notices := []
                timer := .keep
                fault := none }
              issued := [] }) ∧
      ∀ later, (initial.armed (inputs ++ later)).length < UInt64.size →
        (∃ input ∈ later, ¬ input.Spares timer) →
        let last := router.run later
        ∀ world kind, last.process world (.expired kind timer.generation) =
          (last, { machine := last.machine, transition := .start (.expired kind) last.route }) := by
  intro initial router machine
  have hsound : machine.Sound := (accounted_run timeouts inputs).sound
  refine ⟨fun world device => ?_, fun world device event hother hevent => ?_,
    fun timer hpending hretry => ⟨?_, fun later hspared => ?_, fun later hroom hspoiled => ?_⟩⟩
  · obtain ⟨hmachine, htimer, hissued⟩ := machine.process_added world device
    exact ⟨hmachine, hissued, htimer⟩
  · have hroute : machine.route.isRoutedTo device = false := by
      rw [← Bool.not_eq_true, Route.isRoutedTo_iff_device?]
      exact hother
    rcases hevent with rfl | rfl
    · rcases Machine.process_deviceLost_other hroute world with
        ⟨⟨hmachine, htimer, hissued⟩, -⟩ | ⟨⟨timer, hpending, hdevice⟩, hmachine, hissued, -⟩
      · exact ⟨congrArg Machine.route hmachine, congrArg Machine.generation hmachine, hissued,
          fun _ _ _ => ⟨hmachine, htimer⟩⟩
      · refine ⟨(congrArg Machine.route hmachine).trans rfl,
          (congrArg Machine.generation hmachine).trans rfl, hissued, fun other hother hkind => ?_⟩
        -- a device that has to confirm has the route
        cases hother.symm.trans hpending
        rw [hsound.route_confirmation hpending hkind, hdevice] at hroute
        simp [Route.isRoutedTo, Route.device?] at hroute
    · obtain ⟨hmachine, htimer, hissued⟩ := Machine.process_audioLost_other hroute world
      exact ⟨congrArg Machine.route hmachine, congrArg Machine.generation hmachine, hissued,
        fun _ _ _ => ⟨hmachine, htimer⟩⟩
  · exact hsound.route_retry hpending hretry
  · obtain ⟨hrun, hkept⟩ := run_spared hsound hpending hretry hspared
    refine ⟨hrun, hkept, fun world => ?_⟩
    have hroute : machine.route = .off := hsound.route_retry hpending hretry
    have hprocess : ((router.run later).process world (.expired .retry timer.generation)).2 =
        machine.process world (.expired .retry timer.generation) :=
      congrArg (Machine.process · world _) hrun
    have hdue := Machine.process_due_retry hsound hpending hretry world
    rw [hroute] at hdue
    rw [hprocess, hroute]
    exact hdue
  · intro last world kind
    have hlast : last = initial.run (inputs ++ later) := (run_append _ _ _).symm
    refine process_stale ?_ world
    rw [hlast]
    exact run_spoiled hpending hretry hroom hspoiled kind

/-- A planned retry outlives the loss of another device, and not that of its own. -/
theorem planned_retry_device_lost :
    let world := (Stack.ofDevices [⟨"A"⟩, ⟨"B"⟩]).surroundings
    let refusing := ((Stack.ofDevices [⟨"A"⟩, ⟨"B"⟩]).setAccepts false).surroundings
    let initial := Router.new (.of (.ofMillis 5000) (.ofMillis 500) 1)
    let inputs := [.event refusing (.connect (some ⟨"A"⟩))]
    let router := initial.run inputs
    let timer : PendingTimer := ⟨1, .retry, ⟨"A"⟩, 1⟩
    let sparing := [.event world (.deviceLost ⟨"B"⟩), .event world (.audioLost ⟨"A"⟩),
      .force world.directory (.connecting ⟨"C"⟩), .event world (.expired .retry 7)]
    let ending := [.event world (.deviceLost ⟨"B"⟩), .event world (.deviceLost ⟨"A"⟩)]
    router.machine.pending = some timer ∧
      (∀ input ∈ sparing, Input.Spares timer input) ∧
      (router.run sparing).machine = router.machine ∧
      ((router.run sparing).process world (.expired .retry 1)).2.issued =
        [.connectAudio ⟨"A"⟩] ∧
      (initial.armed (inputs ++ ending)).length < UInt64.size ∧
      (∃ input ∈ ending, ¬ Input.Spares timer input) ∧
      ((router.run ending).process world (.expired .retry 1)).1 = router.run ending := by
  intro world refusing initial inputs router timer sparing ending
  have hpending : router.machine.pending = some timer := by decide
  have hspares : ∀ input ∈ sparing, Input.Spares timer input := by
    simp [sparing, Input.Spares, Event.Spares, timer]
    decide
  have hroom : (initial.armed (inputs ++ ending)).length < UInt64.size := by decide
  have hends : ∃ input ∈ ending, ¬ Input.Spares timer input :=
    ⟨.event world (.deviceLost ⟨"A"⟩), by simp [ending],
      by simp [Input.Spares, Event.Spares, timer]⟩
  obtain ⟨-, -, hretry⟩ := planned_retry (.of (.ofMillis 5000) (.ofMillis 500) 1) inputs
  obtain ⟨-, hspared, hended⟩ := hretry timer hpending rfl
  obtain ⟨hrun, -, hdue⟩ := hspared sparing hspares
  have hdead : (router.run ending).process world (.expired .retry 1) = (router.run ending, _) :=
    hended ending hroom hends world .retry
  exact ⟨hpending, hspares, hrun, (hdue world).1, hroom, hends, by rw [hdead]⟩

end Router

end CallAudio
