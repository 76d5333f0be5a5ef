/-
  Where routes come from.

  No handler of an event may leave a route behind that nobody asked for or reported, and a route
  that awaits confirmation may not outlast the request that it stands for.

  * `AttemptFailed`: an attempt failed during an event, by refusal or for want of confirmation;
  * `Arrival`: the ways in which a route comes about, and the one in which it stays;
  * `Machine.process_arrival`: the route after an event came about in one of these ways;
  * `Router.asked_run`: while a device is connecting, the last command was to open audio to it,
    was accepted, and nothing has happened since that ends the wait;
  * `Router.route_provenance`: all of it, for every run in which no route is entered from outside.
-/
import CallAudio.Proofs.Stale

namespace CallAudio

/-- The route that the stack reports. -/
def Headset.reported (headset : Headset) : Route :=
  match headset.active? with
  | some device => .connected device
  | none => .off

theorem Headset.reported_eq_connected_iff {headset : Headset} {device : Device} :
    headset.reported = .connected device ↔ headset.active? = some device := by
  unfold reported; split <;> simp_all

theorem Headset.reported_eq_off_iff {headset : Headset} :
    headset.reported = .off ↔ headset.active? = none := by
  unfold reported; split <;> simp_all

theorem Headset.reported_ne_connecting (headset : Headset) (device : Device) :
    headset.reported ≠ .connecting device := by
  unfold reported; split <;> simp

/-- An event after which nobody waits for `device` to confirm. -/
def Event.EndsWait (event : Event) (device : Device) : Prop :=
  event = .disconnect ∨ (∃ other, event = .audioOn other) ∨ event.IsLossOf device

/-- An attempt failed during an event, in which the headset received `issued`. -/
inductive AttemptFailed (world : Surroundings) (machine : Machine) (event : Event)
    (issued : List Command) : Prop
  /-- The headset refused to open audio. -/
  | refused {device : Device} (hissued : .connectAudio device ∈ issued)
      (hrefuses : world.headset.accepts device = false)
  /-- A device did not confirm in time. -/
  | timedOut {timer : PendingTimer} (hpending : machine.pending = some timer)
      (hkind : timer.kind = .confirmation)
      (hevent : event = .expired .confirmation timer.generation)

/-- How the route after an event came about, in which the headset received `issued`. -/
inductive Arrival (world : Surroundings) (machine : Machine) (event : Event)
    (issued : List Command) : Route → Prop
  /-- It was there before, and if a device is connecting it is still waited for. -/
  | stayed (hissued : issued = [])
      (hevent : ∀ device, machine.route = .connecting device → ¬ event.EndsWait device)
      (hexpiry : ∀ device, machine.route = .connecting device → ∀ kind generation,
        event = .expired kind generation → machine.outstanding? kind generation = none) :
      Arrival world machine event issued machine.route
  /-- The headset was asked to open audio, and accepted. -/
  | asked {device : Device} (hissued : issued = [.connectAudio device])
      (haccepts : world.headset.accepts device = true) :
      Arrival world machine event issued (.connecting device)
  /-- An attempt failed, and the route is what the stack reports. -/
  | settled (hfailed : AttemptFailed world machine event issued) :
      Arrival world machine event issued world.headset.reported
  /-- Audio was confirmed. -/
  | confirmed {device : Device} (hevent : event = .audioOn device) :
      Arrival world machine event issued (.connected device)
  /-- Audio was taken off on request. -/
  | closed (hevent : event = .disconnect) : Arrival world machine event issued .off
  /-- The device that had the route is lost, and no other can take over. -/
  | vacated {device : Device} (hloss : event.IsLossOf device)
      (hroute : machine.route.isRoutedTo device = true)
      (hnone : world.directory.fallback? device = none) :
      Arrival world machine event issued .off

namespace Turn

variable {world : Surroundings} {machine : Machine} {turn after : Turn} {device : Device}
  {attempt : Nat} {event : Event}

theorem Settled.route_eq (h : Settled world device attempt turn after) :
    after.machine.route = world.headset.reported := by
  cases h with
  | active hactive => simp [Headset.reported, hactive]
  | retry hactive => simp [Headset.reported, hactive, Machine.arm]
  | ended hactive => simp [Headset.reported, hactive]

theorem Attempted.arrival (h : Attempted world device attempt turn after)
    (hissued : turn.issued = []) :
    Arrival world machine event after.issued after.machine.route := by
  have hafter : after.issued = [.connectAudio device] := by rw [h.issued_eq, hissued]; rfl
  cases h with
  | accepted haccepts => exact .asked hafter haccepts
  | refused hrefuses hsettled =>
    rw [hsettled.route_eq]
    exact .settled (.refused (hafter ▸ List.mem_singleton_self _) hrefuses)

theorem Vacated.arrival (h : Vacated world device turn after) (hissued : turn.issued = [])
    (hloss : event.IsLossOf device) (hroute : machine.route.isRoutedTo device = true) :
    Arrival world machine event after.issued after.machine.route := by
  cases h with
  | handOver _ hattempted => exact hattempted.arrival (by simpa using hissued)
  | off hnone => exact .vacated hloss hroute hnone

/-- A route that stays, and for which no device has to confirm. -/
theorem arrival_stayed (hroute : after.machine.route = machine.route)
    (hissued : after.issued = []) (hwait : ∀ device, machine.route ≠ .connecting device) :
    Arrival world machine event after.issued after.machine.route := by
  rw [hroute]
  exact .stayed hissued (fun device h => absurd h (hwait device))
    (fun device h => absurd h (hwait device))

/-- A request or a device that comes leaves the wait alone. -/
theorem arrival_kept (hroute : after.machine.route = machine.route) (hissued : after.issued = [])
    (hevent : (∃ requested, event = .connect requested) ∨ ∃ other, event = .deviceAdded other) :
    Arrival world machine event after.issued after.machine.route := by
  rw [hroute]
  rcases hevent with ⟨requested, rfl⟩ | ⟨other, rfl⟩ <;>
    exact .stayed hissued (fun _ _ => by simp [Event.EndsWait, Event.IsLossOf])
      (fun _ _ _ _ h => by cases h)

/-- So does the loss of another device. -/
theorem arrival_lostOther (hroute : after.machine.route = machine.route)
    (hissued : after.issued = []) (hloss : event.IsLossOf device)
    (hother : machine.route.isRoutedTo device = false) :
    Arrival world machine event after.issued after.machine.route := by
  rw [hroute]
  refine .stayed hissued (fun current hcurrent hends => ?_) (fun _ _ kind generation h => ?_)
  · have hne : current ≠ device := by
      rintro rfl
      simp [hcurrent, Route.isRoutedTo, Route.device?] at hother
    rcases hloss with rfl | rfl <;>
      exact hne (by simpa [Event.EndsWait, Event.IsLossOf, eq_comm] using hends)
  · rcases hloss with rfl | rfl <;> cases h

theorem Outcome.arrival (h : Outcome world turn event after) (hsound : turn.machine.Sound)
    (hissued : turn.issued = []) :
    Arrival world turn.machine event after.issued after.machine.route := by
  cases h with
  | connect _ _ hattempted => exact hattempted.arrival (by simpa using hissued)
  | switch _ _ _ hattempted => exact hattempted.arrival hissued
  | noTarget hroute | unknownTarget hroute | stayOff hroute =>
    exact arrival_stayed (by simp) (by simpa using hissued) (by simp [hroute])
  | routed | unknownSwitch => exact arrival_kept (by simp) (by simpa using hissued) (.inl ⟨_, rfl⟩)
  | disconnect => exact .closed rfl
  | added => exact arrival_kept (by simp) (by simpa using hissued) (.inr ⟨_, rfl⟩)
  | lost hroute hvacated => simpa using hvacated.arrival hissued (.inl rfl) hroute
  | lostPending hroute =>
    exact arrival_lostOther (by simp) (by simpa using hissued) (.inl rfl) hroute
  | lostOther hroute =>
    exact arrival_lostOther (by simp) (by simpa using hissued) (.inl rfl) hroute
  | confirmed => exact .confirmed rfl
  | confirmedAgain hroute =>
    exact arrival_stayed (by simp) (by simpa using hissued) (by simp [hroute])
  | dropped hroute hvacated => exact hvacated.arrival (by simpa using hissued) (.inr rfl) hroute
  | droppedOther hroute =>
    exact arrival_lostOther (by simp) (by simpa using hissued) (.inr rfl) hroute
  | @stale kind generation hstale =>
    refine .stayed hissued (fun _ _ => by simp [Event.EndsWait, Event.IsLossOf]) ?_
    rintro _ _ _ _ ⟨⟩
    exact @Machine.Sound.outstanding?_of_stale _ _ _ hsound .disconnect hstale
  | timedOut hmatching hsettled =>
    obtain ⟨hpending, hkind, rfl, -⟩ := matching?_eq_some hmatching
    rw [hsettled.route_eq]
    exact .settled (.timedOut hpending hkind rfl)
  | retried _ _ hattempted => exact hattempted.arrival (by simpa using hissued)
  | retryGone hmatching =>
    obtain ⟨-, hkind, -, hroute⟩ := matching?_eq_some hmatching
    have hoff : turn.machine.route = .off := by rw [hroute, PendingTimer.route, hkind]
    exact arrival_stayed (by simp) (by simpa using hissued) (by simp [hoff])

end Turn

/-- **Every route after an event came about in one of the ways of `Arrival`.** -/
theorem Machine.process_arrival {machine : Machine} (h : machine.Sound) (world : Surroundings)
    (event : Event) :
    let turn := machine.process world event
    Arrival world machine event turn.issued turn.machine.route := by
  obtain ⟨after, houtcome, heq⟩ := Turn.process_outcome world machine event
  rw [heq]
  exact houtcome.arrival h rfl

/-! ## Runs -/

/-- An input after which `device` is still waited for. -/
structure Moment.Awaits (moment : Moment) (device : Device) : Prop where
  /-- The headset receives nothing. -/
  issued : moment.issued = []
  /-- No timer is acted on. -/
  fired : moment.fired? = none
  /-- No event ends the wait. -/
  event : ∀ world event, moment.input = .event world event → ¬ event.EndsWait device

namespace Router

/-- The headset was asked to open audio to `device`, accepted, and nothing has happened since
    that ends the wait. -/
def Asked (router : Router) (inputs : List Input) (device : Device) : Prop :=
  ∃ before world event after, inputs = before ++ .event world event :: after ∧
    ((router.run before).process world event).2.issued = [.connectAudio device] ∧
    world.headset.accepts device = true ∧
    ∀ moment ∈ ((router.run before).process world event).1.moments after, moment.Awaits device

variable {router : Router} {inputs : List Input} {input : Input} {device : Device}

/-- The router after a run that begins with an event. -/
theorem run_event (before : List Input) (world : Surroundings) (event : Event)
    (after : List Input) :
    router.run (before ++ .event world event :: after) =
      ((router.run before).process world event).1.run after := by
  rw [run_append]; rfl

theorem Asked.concat (h : router.Asked inputs device)
    (hawaits : Moment.Awaits ⟨router.run inputs, input⟩ device) :
    router.Asked (inputs ++ [input]) device := by
  obtain ⟨before, world, event, after, rfl, hissued, haccepts, hafter⟩ := h
  refine ⟨before, world, event, after ++ [input], by simp, hissued, haccepts, ?_⟩
  rw [run_event] at hawaits
  intro moment hmem
  rw [moments_append] at hmem
  rcases List.mem_append.1 hmem with hold | hnew
  · exact hafter moment hold
  · rw [List.mem_singleton.1 hnew]
    exact hawaits

/-- What was asked for is the last command of the run. -/
theorem Asked.last_command (h : router.Asked inputs device) :
    (router.commands inputs).getLast? = some (.connectAudio device) := by
  obtain ⟨before, world, event, after, rfl, hissued, -, hafter⟩ := h
  have hrest : (((router.run before).process world event).1.moments after).flatMap (·.issued) =
      [] := List.flatMap_eq_nil_iff.2 fun moment hmem => (hafter moment hmem).issued
  have hmoment : Moment.issued ⟨router.run before, .event world event⟩ =
      [.connectAudio device] := hissued
  rw [commands, moments_append, List.flatMap_append, moments, List.flatMap_cons, hmoment]
  show (_ ++ ([_] ++ (((router.run before).process world event).1.moments after).flatMap
    _)).getLast? = _
  rw [hrest]
  simp

/-- An event that leaves a connecting device as it is, and the headset alone. -/
theorem awaits_of_stayed {world : Surroundings} {event : Event}
    (hissued : (router.machine.process world event).issued = [])
    (hevent : ¬ event.EndsWait device)
    (hexpiry : ∀ kind generation, event = .expired kind generation →
      router.machine.outstanding? kind generation = none) :
    Moment.Awaits ⟨router, .event world event⟩ device := by
  refine ⟨hissued, ?_, fun _ _ h => by cases h; exact hevent⟩
  cases event with
  | expired kind generation =>
    show (router.machine.outstanding? kind generation).map _ = none
    rw [hexpiry kind generation rfl]
    rfl
  | _ => rfl

/-- **While a device is connecting it is the one that the headset was asked for last.** -/
theorem asked_run (timeouts : Timeouts) {inputs : List Input} (h : Unforced inputs)
    {device : Device} (hroute : ((Router.new timeouts).run inputs).route = .connecting device) :
    (Router.new timeouts).Asked inputs device := by
  induction inputs using List.reverseRecOn with
  | nil => cases hroute
  | append_singleton inputs input ih =>
    have ih := ih fun directory route hmem => h directory route (List.mem_append_left _ hmem)
    set router := (Router.new timeouts).run inputs
    rw [run_append] at hroute
    cases input with
    | force directory route =>
      exact absurd (List.mem_append_right _ List.mem_cons_self) (h directory route)
    | listen listener =>
      exact (ih hroute).concat ⟨rfl, rfl, fun _ _ heq => by cases heq⟩
    | event world event =>
      have hsound := (accounted_run timeouts inputs).sound
      have harrival : Arrival world router.machine event
          (router.machine.process world event).issued
          (router.machine.process world event).machine.route :=
        Machine.process_arrival hsound world event
      have hroute : (router.machine.process world event).machine.route = .connecting device :=
        hroute
      generalize (router.machine.process world event).machine.route = route at harrival hroute
      cases harrival with
      | stayed hissued hevent hexpiry =>
        exact (ih hroute).concat
          (awaits_of_stayed hissued (hevent device hroute) (hexpiry device hroute))
      | asked hissued haccepts =>
        cases hroute
        exact ⟨inputs, world, event, [], rfl, hissued, haccepts,
          fun moment hmem => by cases hmem⟩
      | settled => exact absurd hroute (world.headset.reported_ne_connecting device)
      | confirmed | closed | vacated => cases hroute

/-- **Every route has its reason.**  In a run in which no route is entered from outside, whatever
    the stack answers: while a device is connecting, the last command that the headset received
    was to open audio to it and was accepted, and since then audio was not confirmed anywhere nor
    taken off, the device was not lost nor audio on it, and no timer was acted on.  A route comes
    to be connected only by the report that audio is on the device, or by an attempt that fails
    while the device is the first on which the stack reports audio; and it comes to be off only
    on request, or by the loss of its device if no other can take over, or by an attempt that fails
    while the stack reports audio nowhere. -/
theorem route_provenance (timeouts : Timeouts) (inputs : List Input) (h : Unforced inputs) :
    let start := Router.new timeouts
    let router := start.run inputs
    (∀ device, router.route = .connecting device →
      (start.commands inputs).getLast? = some (.connectAudio device) ∧
      ∃ before world event after, inputs = before ++ .event world event :: after ∧
        ((start.run before).process world event).2.issued = [.connectAudio device] ∧
        world.headset.accepts device = true ∧
        ∀ moment ∈ ((start.run before).process world event).1.moments after,
          moment.issued = [] ∧ moment.fired? = none ∧
          ∀ world event, moment.input = .event world event →
            event ≠ .disconnect ∧ (∀ other, event ≠ .audioOn other) ∧
              event ≠ .deviceLost device ∧ event ≠ .audioLost device) ∧
    ∀ world event,
      let turn := (router.process world event).2
      let active := world.headset.devices.find? world.headset.isActive
      turn.transition.source ≠ turn.transition.target →
      (∀ device, turn.transition.target = .connected device →
        event = .audioOn device ∨
        AttemptFailed world router.machine event turn.issued ∧ active = some device) ∧
      (turn.transition.target = .off →
        event = .disconnect ∨
        (∃ device, (event = .deviceLost device ∨ event = .audioLost device) ∧
          router.route.isRoutedTo device = true ∧ world.directory.fallback? device = none) ∨
        AttemptFailed world router.machine event turn.issued ∧ active = none) := by
  intro start router
  refine ⟨fun device hroute => ?_, fun world event => ?_⟩
  · have hasked : start.Asked inputs device := asked_run timeouts h hroute
    obtain ⟨before, world, event, after, hinputs, hissued, haccepts, hafter⟩ := id hasked
    refine ⟨hasked.last_command, before, world, event, after, hinputs, hissued, haccepts,
      fun moment hmem => ?_⟩
    have hawaits := hafter moment hmem
    refine ⟨hawaits.issued, hawaits.fired, fun world event hinput => ?_⟩
    have hkept := hawaits.event world event hinput
    exact ⟨fun heq => hkept (.inl heq), fun other heq => hkept (.inr (.inl ⟨other, heq⟩)),
      fun heq => hkept (.inr (.inr (.inl heq))), fun heq => hkept (.inr (.inr (.inr heq)))⟩
  · intro turn active hchanged
    have hsound := (accounted_run timeouts inputs).sound
    obtain ⟨-, hsource, htarget⟩ := router.machine.process_record world event
    have harrival : Arrival world router.machine event turn.issued turn.transition.target := by
      rw [show turn.transition.target = _ from htarget]
      exact Machine.process_arrival hsound world event
    have hchanged : turn.transition.target ≠ router.machine.route := fun heq =>
      hchanged (Eq.trans hsource heq.symm)
    generalize turn.transition.target = target at harrival hchanged ⊢
    cases harrival with
    | stayed => exact absurd rfl hchanged
    | asked => exact ⟨fun device heq => (by cases heq), fun heq => (by cases heq)⟩
    | settled hfailed =>
      exact ⟨fun device heq => .inr ⟨hfailed, Headset.reported_eq_connected_iff.1 heq⟩,
        fun heq => .inr (.inr ⟨hfailed, Headset.reported_eq_off_iff.1 heq⟩)⟩
    | confirmed hevent =>
      exact ⟨fun device heq => by cases heq; exact .inl hevent, fun heq => (by cases heq)⟩
    | closed hevent => exact ⟨fun device heq => (by cases heq), fun _ => .inl hevent⟩
    | vacated hloss hroute hnone =>
      exact ⟨fun device heq => (by cases heq),
        fun _ => .inr (.inl ⟨_, hloss, hroute, hnone⟩)⟩

/-- A device that is still waited for after another lost audio, an expiry came that no timer
    was armed for, and an unknown device was asked for. -/
theorem route_provenance_waiting :
    let world := (Stack.ofDevices [⟨"A"⟩, ⟨"B"⟩]).surroundings
    let start := Router.new (.of (.ofMillis 5000) (.ofMillis 500) 1)
    let inputs := [.event world (.connect none), .event world (.audioLost ⟨"B"⟩),
      .event world (.expired .confirmation 9), .event world (.connect (some ⟨"C"⟩))]
    Unforced inputs ∧
      (start.run inputs).route = .connecting ⟨"A"⟩ ∧
      (start.commands inputs).getLast? = some (.connectAudio ⟨"A"⟩) := by
  intro world start inputs
  have hunforced : Unforced inputs := by simp [Unforced, inputs]
  have hroute : (start.run inputs).route = .connecting ⟨"A"⟩ := by decide
  obtain ⟨hwaiting, -⟩ := route_provenance _ inputs hunforced
  exact ⟨hunforced, hroute, (hwaiting _ hroute).1⟩

end Router

end CallAudio
