/-
  Routes and the directory in replays.

  In a replay the headset has the devices of the directory and no others, and the directory learns
  of a device that comes or goes before the service does.  So a route stays with a device of the
  directory unless the script itself takes the device away, or reports audio on another one.

  * `Replay.Keeps`: a step that does neither;
  * `Router.covers_run`: the router stays on routes that the directory covers while the stack does
    not change;
  * `Bench.CoveredSince`: the directory covers the route of a bench and the targets of the latest
    transitions; `Bench.Span.covered`: so it is as long as the stack does not change;
  * `Replay.Follows.play_covered`: a step that keeps the directory in order;
  * `Script.covered_replay`: scripts all of whose steps do.
-/
import CallAudio.Proofs.Replay

namespace CallAudio

/-! ## While the stack does not change -/

/-- While the stack does not change, the directory goes on to cover the route, also if the device
    that has it is lost first. -/
theorem Router.covers_run {router : Router} {world : Surroundings} {events : List Event}
    (hsound : router.machine.Sound)
    (hheadset : ∀ device ∈ world.headset.devices, world.directory.contains device = true)
    (hconfirmed : ∀ device, .audioOn device ∈ events → world.directory.contains device = true)
    (hcovers : world.directory.Covers router.route ∨
      ∃ device rest, router.route.device? = some device ∧ events = .deviceLost device :: rest) :
    world.directory.Covers (router.run (events.map (.event world))).route ∧
      ∀ transition ∈ router.transitions (events.map (.event world)),
        world.directory.Covers transition.target := by
  induction events generalizing router with
  | nil =>
    refine ⟨hcovers.resolve_right ?_, fun transition hmem => by cases hmem⟩
    rintro ⟨device, rest, -, heq⟩
    cases heq
  | cons event events ih =>
    obtain ⟨-, -, htarget⟩ := router.machine.process_record world event
    have hstep : world.directory.Covers (router.machine.process world event).machine.route := by
      refine Machine.process_covers hsound hheadset
        (fun device heq => hconfirmed device (heq ▸ List.mem_cons_self)) ?_
      refine hcovers.imp id ?_
      rintro ⟨device, rest, hdevice, heq⟩
      exact ⟨device, hdevice, (List.cons.inj heq).1⟩
    obtain ⟨hrest, hlater⟩ := @ih (router.process world event).1
      (@Moment.sound_after ⟨router, .event world event⟩ hsound)
      (fun device hmem => hconfirmed device (.tail _ hmem)) (.inl hstep)
    refine ⟨hrest, fun transition hmem => ?_⟩
    rcases List.mem_cons.1 hmem with hfirst | hmem
    · have hfirst : transition = (router.machine.process world event).transition := hfirst
      rw [hfirst, htarget]
      exact hstep
    · exact hlater transition hmem

/-- The directory covers the route of the bench, and the routes to which the transitions went that
    were published since `subscriber` was up to date; there are no more than the feed keeps. -/
structure Bench.CoveredSince (bench : Bench) (subscriber : Subscriber) : Prop where
  /-- The route. -/
  route : bench.stack.recency.directory.Covers bench.service.router.route
  /-- No transition is lost. -/
  kept : (bench.service.feed.drain subscriber).1.missed = 0
  /-- The transitions. -/
  transitions : ∀ transition ∈ (bench.service.feed.drain subscriber).1.items,
    bench.stack.recency.directory.Covers transition.target

namespace Bench

variable {timeouts : Timeouts} {actions more : List Action} {bench after : Bench}
  {causes : List Cause}

/-- While the stack does not change, a device that has the route stays in the directory. -/
theorem Span.covered (hspan : bench.Span causes more after)
    (h : bench.Resting timeouts actions) (hafter : after.Resting timeouts (actions ++ more))
    (hfew : causes.length ≤ Feed.capacity)
    (hconfirmed : ∀ device, .sent (.audioOn device) ∈ causes →
      bench.stack.recency.directory.contains device = true)
    (hcovers : bench.stack.recency.directory.Covers bench.service.router.route ∨
      ∃ device rest, bench.service.router.route.device? = some device ∧
        causes = .sent (.deviceLost device) :: rest) :
    after.CoveredSince bench.service.feed.subscribe := by
  set world := bench.stack.surroundings
  set events := causes.map (·.event)
  have hinputs : bench.service.inputs more = events.map (.event world) := by
    rw [hspan.inputs_eq, List.map_map]; rfl
  have hrouter : after.service.router = bench.service.router.run (events.map (.event world)) := by
    rw [hspan.service_eq, Service.router_replay, hinputs]
  have hdirectory : after.stack.recency = bench.stack.recency := by
    obtain ⟨commands, hstack⟩ := hspan.stack_eq
    rw [hstack]; rfl
  have hsent (event : Event) (hmem : event ∈ events) (hevent : event.isTimer = false) :
      .sent event ∈ causes := by
    obtain ⟨cause, hcause, rfl⟩ := List.mem_map.1 hmem
    cases cause with
    | sent event => exact hcause
    | rung alarm => cases hevent
  obtain ⟨hroute, htransitions⟩ := @Router.covers_run _ world events h.timed.accounted.sound
    (fun device hmem => Recency.contains_iff.2 hmem)
    (fun device hmem => hconfirmed device (hsent _ hmem rfl))
    (hcovers.imp id fun ⟨device, rest, hdevice, heq⟩ =>
      ⟨device, rest.map (·.event), hdevice, by simp [events, heq, Cause.event]⟩)
  -- what was published in the meantime is what the subscriber gets
  have hcarries := hafter.carries
  rw [Service.inputs_append, Router.transitions_append, ← h.service_eq, ← h.router_eq,
    hinputs] at hcarries
  have hplace := h.carries.published
  have hlength := hcarries.published
  have hbefore := h.published_eq
  have hcount := hafter.published_eq
  rw [h.causes_append hspan, List.length_append, ← hbefore] at hcount
  rw [List.length_append, ← hplace] at hlength
  obtain ⟨hmissed, hitems⟩ := hcarries.drain
  rw [← hplace] at hmissed hitems
  have hnone : (bench.service.router.transitions (events.map (.event world))).length -
      Feed.capacity = 0 := by omega
  rw [hnone] at hmissed
  rw [hmissed, List.drop_zero] at hitems
  refine ⟨?_, hmissed, fun transition hmem => ?_⟩
  · rw [hrouter, hdirectory]
    exact hroute
  · rw [hdirectory]
    exact htransitions transition (hitems ▸ hmem)

end Bench

/-! ## Steps -/

namespace Replay

/-- A step that reports audio only on devices of the directory, and does not take the device that
    has the route away. -/
def Keeps (replay : Replay) : Step → Prop
  | .send (.audioOn device) => device ∈ replay.bench.stack.recency.devices
  | .setConnected devices =>
    ∀ device, replay.bench.service.router.route.device? = some device → device ∈ devices
  | _ => True

variable {timeouts : Timeouts} {script : Script} {steps : List Step} {actions : List Action}
  {replay : Replay}

/-- The directory as a step has it covers the route, or the step says that its device is lost. -/
theorem Keeps.covers {step : Step} (h : replay.Keeps step)
    (hcovers : replay.bench.stack.recency.directory.Covers replay.bench.service.router.route) :
    (step.arrange replay.bench.stack).recency.directory.Covers
        replay.bench.service.router.route ∨
      ∃ device, replay.bench.service.router.route.device? = some device ∧
        step = .send (.deviceLost device) := by
  cases step with
  | setConnected devices =>
    exact .inl fun device hdevice => Recency.contains_iff.2 (h device hdevice)
  | setActive devices => exact .inl hcovers
  | setAccepts accepts => exact .inl hcovers
  | wait ms => exact .inl hcovers
  | send event =>
    cases event with
    | deviceAdded added =>
      refine .inl fun device hdevice => Recency.contains_iff.2 ?_
      exact Recency.mem_connect.2 (.inr (Recency.contains_iff.1 (hcovers device hdevice)))
    | deviceLost lost =>
      by_cases hlost : replay.bench.service.router.route.device? = some lost
      · exact .inr ⟨lost, hlost, rfl⟩
      · refine .inl fun device hdevice => Recency.contains_iff.2 ?_
        refine Recency.mem_disconnect.2 ⟨Recency.contains_iff.1 (hcovers device hdevice), ?_⟩
        rintro rfl
        exact hlost hdevice
    | _ => exact .inl hcovers

/-- **After a step that keeps the directory in order it covers the route again, and so it did
    after every transition meanwhile.** -/
theorem Follows.play_covered (h : replay.Follows timeouts script steps actions)
    (hroom : 4 * timeouts.retries + 3 ≤ Feed.capacity)
    (hcovers : replay.bench.stack.recency.directory.Covers replay.bench.service.router.route)
    {step : Step} (hkeeps : replay.Keeps step) :
    ∃ next more, replay.play step = .ok next ∧
      next.Follows timeouts script (steps ++ [step]) (actions ++ more) ∧
      next.bench.CoveredSince replay.bench.service.feed.subscribe := by
  obtain ⟨next, rung, more, -, hplay, hnext, hplayed, -⟩ := h.play hroom step
  have harranged : (replay.bench.arrange step).Resting timeouts actions := h.resting.onStack _
  refine ⟨next, more, hplay, hnext, hplayed.span.covered harranged hnext.resting ?_ ?_ ?_⟩
  · have hbounded := hplayed.bounded
    have hsent := step.length_event?_le
    rw [List.length_append, List.length_map, List.length_map]
    omega
  · intro device hmem
    have hstep : step = .send (.audioOn device) := by
      rcases List.mem_append.1 hmem with hsent | hrung
      · obtain ⟨event, hevent, heq⟩ := List.mem_map.1 hsent
        cases heq
        have hevent : step.event? = some (.audioOn device) := Option.mem_toList.1 hevent
        cases step <;> cases hevent
        rfl
      · obtain ⟨alarm, -, heq⟩ := List.mem_map.1 hrung
        cases heq
    subst hstep
    exact Recency.contains_iff.2 hkeeps
  · refine (hkeeps.covers hcovers).imp id ?_
    rintro ⟨device, hdevice, rfl⟩
    exact ⟨device, rung.map .rung, hdevice, rfl⟩

/-- When a replay begins the directory covers the first route, and those after the alarms that
    are due at once. -/
theorem start_covered (timeouts : Timeouts) (script : Script)
    (hroom : 4 * timeouts.retries + 3 ≤ Feed.capacity)
    (h : (Stack.ofDevices script.connected).recency.directory.Covers script.initial) :
    ∃ replay, start script timeouts = .ok replay ∧ replay.bench.CoveredSince replay.subscriber := by
  obtain ⟨hopened, after, rung, more, hstart, hafter, -, hspan, hahead⟩ :=
    start_span timeouts script h
  set bench := Bench.start timeouts script.connected
  obtain ⟨hrouter, -, hfeed, -⟩ :=
    bench.service.handle_seen bench.stack.surroundings (.force script.initial)
  have hroute : (bench.take (.force script.initial)).service.router.route = script.initial :=
    (congrArg Router.route hrouter).trans (Router.route_take_of_covers h)
  have hplace : (bench.take (.force script.initial)).service.feed = bench.service.feed := hfeed
  have hcovered := hspan.covered hopened hafter
    (by rw [List.length_map]; omega)
    (fun device hmem => by
      obtain ⟨alarm, -, heq⟩ := List.mem_map.1 hmem
      cases heq)
    (.inl (by rw [hroute]; exact h))
  rw [hplace] at hcovered
  exact ⟨_, hstart, hcovered⟩

end Replay

namespace Script

/-- **Routes stay inside the directory.**  Take a script whose first route is accepted, and none
    of whose steps reports audio on a device that the directory does not have, or takes the device
    away that has the route.  Then the directory has the device of every route that is reached,
    after every step and after every transition meanwhile, of expiries too; whatever comes and
    goes, is asked for and refused, and whatever the stack reports as active. -/
theorem covered_replay (script : Script) (confirmation backoff : Duration) (asked : Nat) :
    let timeouts := Timeouts.of confirmation backoff asked
    (∀ device, script.initial.device? = some device → device ∈ script.connected) →
    (∀ before step after replay, script.steps = before ++ step :: after →
      script.replayed timeouts before = .ok replay → replay.Keeps step) →
    (∃ replay, Replay.start script timeouts = .ok replay ∧
      replay.bench.CoveredSince replay.subscriber) ∧
    ∀ before step after, script.steps = before ++ step :: after →
      ∃ replay next, script.replayed timeouts before = .ok replay ∧
        replay.play step = .ok next ∧
        next.bench.CoveredSince replay.bench.service.feed.subscribe := by
  intro timeouts hknown hkeeps
  have hroom := Timeouts.room_of confirmation backoff asked
  have hfirst := script.covers_initial hknown
  have hstart := Replay.start_covered timeouts script hroom hfirst
  refine ⟨hstart, ?_⟩
  have hreached (steps rest : List Step) (hsteps : script.steps = steps ++ rest) :
      ∃ replay actions, script.replayed timeouts steps = .ok replay ∧
        replay.Follows timeouts script steps actions ∧
        replay.bench.stack.recency.directory.Covers replay.bench.service.router.route := by
    induction steps using List.reverseRecOn generalizing rest with
    | nil =>
      obtain ⟨replay, actions, hstarted, h⟩ := Replay.start_follows timeouts script hfirst
      obtain ⟨_, hsame, hcovered⟩ := hstart
      cases hsame.symm.trans hstarted
      exact ⟨replay, actions, by rw [replayed, hstarted]; rfl, h, hcovered.route⟩
    | append_singleton steps step ih =>
      rw [List.append_assoc, List.singleton_append] at hsteps
      obtain ⟨replay, actions, hreplayed, h, hcovers⟩ := ih _ hsteps
      obtain ⟨next, more, hplay, hnext, hcovered⟩ :=
        h.play_covered hroom hcovers (hkeeps _ _ _ _ hsteps hreplayed)
      exact ⟨next, _, by rw [replayed_concat, hreplayed]; exact hplay, hnext, hcovered.route⟩
  intro before step after hsteps
  obtain ⟨replay, actions, hreplayed, h, hcovers⟩ := hreached before _ hsteps
  obtain ⟨next, -, hplay, -, hcovered⟩ :=
    h.play_covered hroom hcovers (hkeeps _ _ _ _ hsteps hreplayed)
  exact ⟨replay, next, hreplayed, hplay, hcovered⟩

/-- A device that is lost while it is being connected, another one that takes over, does not
    confirm and does so in the end, and a directory that is given as a whole meanwhile. -/
theorem covered_replay_taken_over :
    let timeouts := Timeouts.of (.ofMillis 5000) (.ofMillis 500) 1
    let before : List Step := [.send (.deviceLost ⟨"A"⟩), .setConnected [⟨"C"⟩, ⟨"B"⟩],
      .wait 6000]
    let script : Script := {
      connected := [⟨"A"⟩, ⟨"B"⟩]
      initial := .connecting ⟨"A"⟩
      steps := before ++ [.send (.audioOn ⟨"B"⟩)] }
    (∀ device, script.initial.device? = some device → device ∈ script.connected) ∧
      (∀ before step after replay, script.steps = before ++ step :: after →
        script.replayed timeouts before = .ok replay → replay.Keeps step) ∧
      ∃ replay next, script.replayed timeouts before = .ok replay ∧
        replay.bench.service.router.route = .connecting ⟨"B"⟩ ∧
        replay.play (.send (.audioOn ⟨"B"⟩)) = .ok next ∧
        next.bench.CoveredSince replay.bench.service.feed.subscribe := by
  intro timeouts before script
  have hknown : ∀ device, script.initial.device? = some device → device ∈ script.connected := by
    intro device hdevice
    cases hdevice
    exact List.mem_cons_self
  have htaken : (script.replayed timeouts [.send (.deviceLost ⟨"A"⟩)]).toOption.map
      (·.bench.service.router.route) = some (.connecting ⟨"B"⟩) := by decide
  have hwaited : (script.replayed timeouts before).toOption.map
      (fun replay => (replay.bench.service.router.route, replay.bench.stack.recency.devices)) =
        some (.connecting ⟨"B"⟩, [⟨"C"⟩, ⟨"B"⟩]) := by decide
  have hkeeps : ∀ before step after replay, script.steps = before ++ step :: after →
      script.replayed timeouts before = .ok replay → replay.Keeps step := by
    intro before step after replay hsteps hreplayed
    rcases before with _ | ⟨first, _ | ⟨second, _ | ⟨third, before⟩⟩⟩
    · cases hsteps; trivial
    · cases hsteps
      rw [hreplayed] at htaken
      have hroute : replay.bench.service.router.route = .connecting ⟨"B"⟩ :=
        Option.some.inj htaken
      intro device hdevice
      rw [hroute] at hdevice
      cases hdevice
      simp
    · cases hsteps; trivial
    · rcases before with _ | ⟨fourth, before⟩
      · cases hsteps
        rw [hreplayed] at hwaited
        have hdevices := (Prod.mk.inj (Option.some.inj hwaited)).2
        show _ ∈ replay.bench.stack.recency.devices
        rw [hdevices]
        simp
      · cases before <;> cases hsteps
  obtain ⟨-, hcovered⟩ := covered_replay script (.ofMillis 5000) (.ofMillis 500) 1 hknown hkeeps
  obtain ⟨replay, next, hreplayed, hplay, hnext⟩ := hcovered before _ [] rfl
  refine ⟨hknown, hkeeps, replay, next, hreplayed, ?_, hplay, hnext⟩
  rw [hreplayed] at hwaited
  exact (Prod.mk.inj (Option.some.inj hwaited)).1

end Script

end CallAudio
