/-
  Replays lose nothing.

  The feed of a service is bounded, and a replay reads it only once a step, however long the step
  takes.  What it may not have room for is the transitions of alarms, of which a wait can bring
  about some; but without a caller they come to an end.

  * `Bench.Played`: what becomes of a bench in one step; `Bench.Resting.perform_played`: a step of
    a bench that rests sends at most one event, lets a bounded number of alarms ring, and leaves
    the bench at rest;
  * `Script.replayed`: the replay after some steps of a script;
  * `Replay.Follows`: such a replay has collected all transitions but the latest, has sent the
    events of the steps, and few alarms rang;
  * `Script.follows_replayed`: so it is after any steps, if the first route is accepted;
  * `Script.lossless_replay`: what follows for the transitions that a script returns.
-/
import CallAudio.Proofs.Entry
import CallAudio.Proofs.Rest
import CallAudio.Script.Replay

namespace CallAudio

namespace Step

/-- The event that a step sends. -/
def event? : Step → Option Event
  | send event => some event
  | setConnected _ | setActive _ | setAccepts _ | wait _ => none

/-- What a step does to the stack, before the service has a turn. -/
def arrange (stack : Stack) : Step → Stack
  | setConnected devices => stack.replace devices
  | setActive devices => stack.setActive devices
  | setAccepts accepts => stack.setAccepts accepts
  | send event => stack.foresee event
  | wait _ => stack

theorem length_event?_le (step : Step) : step.event?.toList.length ≤ 1 := by
  cases step.event? <;> simp

theorem filterMap_event?_concat (steps : List Step) (step : Step) :
    (steps ++ [step]).filterMap (·.event?) =
      steps.filterMap (·.event?) ++ step.event?.toList := by
  rw [List.filterMap_append]
  cases step <;> rfl

end Step

namespace Bench

/-- The bench with the stack as a step has it. -/
def arrange (bench : Bench) (step : Step) : Bench :=
  { bench with stack := step.arrange bench.stack }

/-! ## One step -/

/-- What became of `bench` in a step during which `rung` rang, while its service went through
    `more`. -/
structure Played (timeouts : Timeouts) (actions : List Action) (bench : Bench) (step : Step)
    (rung : List Alarm) (more : List Action) (after : Bench) : Prop where
  /-- It rests again. -/
  resting : after.Resting timeouts (actions ++ more)
  /-- Nothing is left to do. -/
  idle : after.Idle
  /-- The event of the step was sent, and then the alarms rang. -/
  span : (bench.arrange step).Span (step.event?.toList.map .sent ++ rung.map .rung) more after
  /-- They could ring before, or since the event. -/
  ahead : rung.length + after.service.ringsAhead ≤
    bench.service.ringsAhead + (2 * timeouts.retries + 1) * step.event?.toList.length
  /-- There are not many. -/
  bounded : rung.length ≤ 2 * timeouts.retries + 1

variable {timeouts : Timeouts} {actions : List Action} {bench after : Bench}

theorem Rings.idle (h : Rings (bench.service.now + 1) bench after)
    (hresting : bench.Resting timeouts actions) : after.Idle := by
  obtain ⟨_, _, -, hspan, -⟩ := h.span hresting
  have hle := hspan.now_le
  have hlt := h.now_lt hresting (Nat.lt_succ_self _)
  have hnow : after.service.now = bench.service.now := by omega
  rw [Idle, hnow]
  exact h.quiet

/-- The flush at the end of a step.  What came before it left the bench `middle`. -/
theorem Resting.played {middle : Bench} {first : List Action}
    (h : middle.Resting timeouts (actions ++ first)) (step : Step) (early : List Alarm)
    (hspan : (bench.arrange step).Span (step.event?.toList.map .sent ++ early.map .rung) first
      middle)
    (hahead : early.length + middle.service.ringsAhead ≤
      bench.service.ringsAhead + (2 * timeouts.retries + 1) * step.event?.toList.length)
    (hbounded : early.length + middle.service.ringsAhead ≤ 2 * timeouts.retries + 1)
    (hrings : Rings (middle.service.now + 1) (middle.take .flush) after) :
    ∃ rung more, Played timeouts actions bench step rung more after := by
  have htake := h.take (show Message.flush ≠ .stop by simp)
  have hflush := h.span_take (show ∀ route, Message.flush ≠ .force route by simp)
  obtain ⟨late, more, hresting, hlate, hleft⟩ := hrings.span htake
  have hleft : late.length + after.service.ringsAhead ≤ middle.service.ringsAhead := hleft
  have htotal := hspan.trans (hflush.trans hlate)
  rw [List.append_assoc, List.append_assoc] at hresting
  refine ⟨early ++ late, _, hresting, hrings.idle htake, ?_, ?_, ?_⟩
  · rw [List.map_append, ← List.append_assoc]
    exact htotal
  · rw [List.length_append]; omega
  · rw [List.length_append]; omega

theorem Resting.sleep (h : bench.Resting timeouts actions) (hidle : bench.Idle) (ms : Nat) :
    ∃ (rung : List Alarm) (more : List Action),
      (bench.sleep ms).Resting timeouts (actions ++ more) ∧
      bench.Span (rung.map .rung) more (bench.sleep ms) ∧
      rung.length + (bench.sleep ms).service.ringsAhead ≤ bench.service.ringsAhead := by
  by_cases hms : ms = 0
  · have hsleep : bench.sleep ms = bench := if_pos hms
    rw [hsleep]
    exact ⟨[], [], by rwa [List.append_nil], span_refl bench, by simp⟩
  · obtain ⟨middle, hrings, hsleep⟩ := h.sleep_rings hidle hms
    obtain ⟨rung, more, hmiddle, hspan, hahead⟩ := hrings.span h
    have hadvance := hmiddle.advance hrings.quiet
    rw [List.append_assoc] at hadvance
    rw [hsleep]
    refine ⟨rung, _, hadvance, ?_, hahead⟩
    have htotal := hspan.trans (middle.span_advance
      (bench.service.now + (Duration.ofMillis ms).waitMillis))
    rwa [List.append_nil] at htotal

theorem Resting.send_flush (h : bench.Resting timeouts actions) (event : Event) :
    (bench.send event).bind Bench.flush = .ok (bench.queued [.event event, .flush]).settle := by
  have hsent : bench.send event = .ok (bench.queued [.event event]) := by
    rw [send, enqueue_of_running h.running, h.queue_eq]; rfl
  have hflush := @enqueue_of_running (bench.queued [.event event]) h.running .flush
  rw [hsent]
  show (Bench.enqueue _ _).map settle = _
  rw [hflush]
  rfl

/-- Every step of a bench that rests succeeds, and leaves it at rest. -/
theorem Resting.perform_played (h : bench.Resting timeouts actions) (hidle : bench.Idle)
    (step : Step) :
    ∃ after rung more, (Replay.perform bench step).bind Bench.flush = .ok after ∧
      Played timeouts actions bench step rung more after := by
  have harranged : (bench.arrange step).Resting timeouts actions := h.onStack _
  have hbounded := h.ringsAhead_le
  -- a step that sends nothing and takes no time
  have hplain (hperform : Replay.perform bench step = .ok (bench.arrange step))
      (hevent : step.event? = none) :
      ∃ after rung more, (Replay.perform bench step).bind Bench.flush = .ok after ∧
        Played timeouts actions bench step rung more after := by
    obtain ⟨after, hafter, hrings⟩ := harranged.flush_rings
    rw [← List.append_nil actions] at harranged
    obtain ⟨rung, more, hplayed⟩ := harranged.played step [] (by rw [hevent]; exact span_refl _)
      (by simp [Bench.arrange]) (by simpa [Bench.arrange] using hbounded) hrings
    exact ⟨after, rung, more, by rw [hperform]; exact hafter, hplayed⟩
  cases step with
  | setConnected devices => exact hplain rfl rfl
  | setActive devices => exact hplain rfl rfl
  | setAccepts accepts => exact hplain rfl rfl
  | send event =>
    -- the flush is behind the event, and both are handled before an alarm rings
    set arranged := bench.arrange (.send event)
    have htake := harranged.take (show Message.event event ≠ .stop by simp)
    have hspan := harranged.span_take (show ∀ route, Message.event event ≠ .force route by simp)
    have hflushed := htake.take (show Message.flush ≠ .stop by simp)
    have hrings := settle_rings (show arranged.Idle from hidle) [.event event, .flush] (by simp)
      hflushed
    have hleft := htake.ringsAhead_le
    rw [← arranged.now_take (.event event)] at hrings
    obtain ⟨rung, more, hplayed⟩ := htake.played (.send event) []
      (by rw [List.map_nil, List.append_nil]; exact hspan)
      (by simp [Step.event?]; omega) (by simpa using hleft) hrings
    exact ⟨_, rung, more, harranged.send_flush event, hplayed⟩
  | wait ms =>
    obtain ⟨early, first, hslept, hspan, hahead⟩ := h.sleep hidle ms
    obtain ⟨after, hafter, hrings⟩ := hslept.flush_rings
    obtain ⟨rung, more, hplayed⟩ := hslept.played (.wait ms) early hspan hahead
      (hahead.trans hbounded) hrings
    exact ⟨after, rung, more, hafter, hplayed⟩

/-- To stop a bench that rests takes one message. -/
theorem Resting.shutdown_eq (h : bench.Resting timeouts actions) (hidle : bench.Idle) :
    bench.shutdown = bench.take .stop := by
  have hring : (bench.queued [.stop]).ring = bench.queued [.stop] := ring_of_quiet hidle
  have hwork : (bench.queued [.stop]).work = bench.take .stop := by
    have hempty : bench.queued [] = bench := queued_nil h.queue_eq
    show (bench.queued []).take .stop = _
    rw [hempty]
  have halarms : (bench.take .stop).service.alarms = [] :=
    congrArg Service.alarms h.timed.alarmed.dropAlarm_eq
  have henqueued := enqueue_of_running h.running .stop
  rw [h.queue_eq, List.nil_append] at henqueued
  rw [shutdown, henqueued]
  simp only [settle, workBefore, hring, hwork]
  cases (bench.take .stop).alarmsAhead with
  | zero => rfl
  | succ count => rw [ringMany, Service.alarm, halarms]; rfl

theorem Resting.feed_shutdown (h : bench.Resting timeouts actions) (hidle : bench.Idle) :
    bench.shutdown.service.feed = bench.service.feed := by
  rw [h.shutdown_eq hidle]
  exact (bench.service.handle_seen bench.stack.surroundings .stop).2.2.1

/-! ## The transitions of a history -/

variable {causes : List Cause} {more : List Action}

namespace Resting

theorem causes_append (h : bench.Resting timeouts actions) (hspan : bench.Span causes more after) :
    (Service.start (.new timeouts)).causes (actions ++ more) =
      (Service.start (.new timeouts)).causes actions ++ causes := by
  rw [Service.causes_append, ← h.service_eq, hspan.causes_eq]

theorem inputs_append (h : bench.Resting timeouts actions) (hspan : bench.Span causes more after) :
    (Service.start (.new timeouts)).inputs (actions ++ more) =
      (Service.start (.new timeouts)).inputs actions ++
        causes.map fun cause => .event bench.stack.surroundings cause.event := by
  rw [Service.inputs_append, ← h.service_eq, hspan.inputs_eq]

/-- The feed carries the transitions of the history. -/
theorem carries (h : bench.Resting timeouts actions) :
    bench.service.feed.Carries
      ((Router.new timeouts).transitions ((Service.start (.new timeouts)).inputs actions)) := by
  have hstart : (Service.start (.new timeouts)).feed.Carries [] := Feed.carries_nil
  rw [h.service_eq]
  exact Service.carries_replay hstart actions

theorem map_event (h : bench.Resting timeouts actions) :
    ((Router.new timeouts).transitions ((Service.start (.new timeouts)).inputs actions)).map
        (·.event) =
      ((Service.start (.new timeouts)).causes actions).map (·.event.kind) := by
  have hservice := h.service_eq
  exact Service.map_event_transitions _ (hservice ▸ h.running) (hservice ▸ h.queue_eq)

theorem published_eq (h : bench.Resting timeouts actions) :
    bench.service.feed.published = ((Service.start (.new timeouts)).causes actions).length := by
  have hlength := congrArg List.length h.map_event
  rw [List.length_map, List.length_map] at hlength
  rw [h.carries.published, hlength]

end Resting

/-- A step publishes a transition for its event, and one for each alarm that rings. -/
theorem Played.published_eq {step : Step} {rung : List Alarm}
    (hplayed : Played timeouts actions bench step rung more after)
    (h : bench.Resting timeouts actions) :
    after.service.feed.published =
      bench.service.feed.published + (step.event?.toList.length + rung.length) := by
  have harranged : (bench.arrange step).Resting timeouts actions := h.onStack _
  rw [hplayed.resting.published_eq, harranged.causes_append hplayed.span, List.length_append,
    List.length_append, List.length_map, List.length_map, ← h.published_eq]

end Bench

/-! ## Routes entered from outside -/

/-- A caller that asks for a route waits until no alarm is due any more. -/
theorem Bench.Resting.force_rings {timeouts : Timeouts} {actions : List Action} {bench : Bench}
    (h : bench.Resting timeouts actions) (hidle : bench.Idle) (route : Route) :
    ∃ after, Rings (bench.service.now + 1) (bench.take (.force route)) after ∧
      bench.force route = (after,
        match bench.service.router.force bench.stack.surroundings.directory route with
        | .ok _ => .ok ()
        | .error fault => .error (.refused fault)) := by
  have htake := h.take (show Message.force route ≠ .stop by simp)
  have hrings := settle_rings hidle [.force route] (by simp) htake
  have henqueued := enqueue_of_running h.running (.force route)
  rw [h.queue_eq, List.nil_append] at henqueued
  obtain ⟨-, -, -, hreplies⟩ := bench.service.handle_seen bench.stack.surroundings (.force route)
  have hhead : (bench.queued [.force route]).settle.service.replies = _ :=
    (hrings.replies_eq htake).trans hreplies
  refine ⟨_, hrings, ?_⟩
  rw [force, henqueued]
  simp only [hhead, Handling.answer?]
  cases bench.service.router.force bench.stack.surroundings.directory route <;> rfl

theorem Router.input_mem_of_mem_moments {router : Router} {inputs : List Input} {moment : Moment}
    (h : moment ∈ router.moments inputs) : moment.input ∈ inputs := by
  induction inputs generalizing router with
  | nil => cases h
  | cons input inputs ih =>
    rcases List.mem_cons.1 h with rfl | hrest
    · exact List.mem_cons_self
    · exact .tail _ (ih hrest)

/-! ## Replays -/

/-- The retries that are allowed fit into the feed. -/
theorem Timeouts.room_of (confirmation backoff : Duration) (asked : Nat) :
    4 * (Timeouts.of confirmation backoff asked).retries + 3 ≤ Feed.capacity := by
  have hretries : (Timeouts.of confirmation backoff asked).retries ≤ 1 := Nat.min_le_right _ _
  show _ ≤ 256
  omega

/-- The replay of a script after `steps`. -/
def Script.replayed (script : Script) (timeouts : Timeouts) (steps : List Step) :
    Except ReplayError Replay := do
  let replay ← Replay.start script timeouts
  steps.foldlM Replay.play replay

theorem unforced_events (world : Surroundings) (causes : List Cause) :
    Unforced (causes.map fun cause => .event world cause.event) := by
  intro directory route hmem
  obtain ⟨cause, -, heq⟩ := List.mem_map.1 hmem
  cases heq

namespace Replay

/-- All that was published is collected, if there was room for it. -/
theorem collect_eq {replay : Replay} {items : List Transition}
    (hcarries : replay.bench.service.feed.Carries items)
    (hcollected : replay.collected = items.take replay.subscriber.next)
    (hnext : replay.subscriber.next ≤ items.length)
    (hroom : items.length ≤ replay.subscriber.next + Feed.capacity) :
    replay.collect = .ok { replay with subscriber := ⟨items.length⟩, collected := items } := by
  have hsplit := List.take_append_drop replay.subscriber.next items
  have hbefore : (items.take replay.subscriber.next).length = replay.subscriber.next := by
    rw [List.length_take]; omega
  have hsince : (items.drop replay.subscriber.next).length ≤ Feed.capacity := by
    rw [List.length_drop]; omega
  rw [← hsplit] at hcarries
  obtain ⟨hmissed, hitems⟩ := hcarries.drain
  rw [hbefore] at hmissed hitems
  rw [Nat.sub_eq_zero_of_le hsince] at hmissed
  rw [hmissed, List.drop_zero] at hitems
  have hplace : (replay.bench.service.feed.drain replay.subscriber).2 = ⟨items.length⟩ := by
    rw [Feed.drain, hcarries.published, hsplit]
  unfold collect
  generalize replay.bench.service.feed.drain replay.subscriber = drained at *
  obtain ⟨⟨missed, collected⟩, subscriber⟩ := drained
  dsimp only at hmissed hitems hplace ⊢
  rw [if_pos hmissed, hitems, hplace, hcollected, hsplit]

/-- A replay of `script` after `steps`, whose service went through `actions`. -/
structure Follows (timeouts : Timeouts) (script : Script) (steps : List Step)
    (actions : List Action) (replay : Replay) : Prop where
  /-- The bench rests. -/
  resting : replay.bench.Resting timeouts actions
  /-- Nothing is left to do. -/
  idle : replay.bench.Idle
  /-- The first route was accepted, and no other was entered from outside since. -/
  opened : ∃ directory rest, (Service.start (.new timeouts)).inputs actions =
    .force directory script.initial :: rest ∧ directory.Covers script.initial ∧ Unforced rest
  /-- The transitions up to the subscriber's place are collected. -/
  collected : replay.collected = ((Router.new timeouts).transitions
    ((Service.start (.new timeouts)).inputs actions)).take replay.subscriber.next
  /-- There are no fewer. -/
  subscribed : replay.subscriber.next ≤ replay.bench.service.feed.published
  /-- Few are not collected. -/
  backlog : replay.bench.service.feed.published ≤
    replay.subscriber.next + (2 * timeouts.retries + 1)
  /-- The events of the steps were sent, and no others. -/
  sent : ((Service.start (.new timeouts)).causes actions).filterMap (·.sent?) =
    steps.filterMap (·.event?)
  /-- Few alarms rang, and few can. -/
  rung : (((Service.start (.new timeouts)).causes actions).filterMap (·.rung?)).length +
    replay.bench.service.ringsAhead ≤
      (2 * timeouts.retries + 1) * ((steps.filterMap (·.event?)).length + 1)

variable {timeouts : Timeouts} {script : Script} {steps : List Step} {step : Step}
  {actions more : List Action} {replay : Replay} {rung : List Alarm} {after : Bench}

/-- What a service goes through when it is put into a route on `bench`. -/
def opening (bench : Bench) (route : Route) : List Action :=
  [.enqueue (.force route), .handle bench.stack.surroundings]

/-- A replay begins if its first route is accepted, and then the alarms ring that are due. -/
theorem start_span (timeouts : Timeouts) (script : Script)
    (h : (Stack.ofDevices script.connected).recency.directory.Covers script.initial) :
    let bench := Bench.start timeouts script.connected
    let opened := bench.take (.force script.initial)
    opened.Resting timeouts (opening bench script.initial) ∧
      ∃ (after : Bench) (rung : List Alarm) (more : List Action),
        start script timeouts = .ok ⟨after, bench.service.feed.subscribe, []⟩ ∧
        after.Resting timeouts (opening bench script.initial ++ more) ∧ after.Idle ∧
        opened.Span (rung.map .rung) more after ∧
        rung.length + after.service.ringsAhead ≤ 2 * timeouts.retries + 1 := by
  intro bench opened
  have hresting : bench.Resting timeouts [] := Bench.resting_start timeouts script.connected
  have hidle : bench.Idle := fun alarm hmem => by cases hmem
  have htake := hresting.take (show Message.force script.initial ≠ .stop by simp)
  obtain ⟨after, hrings, hforce⟩ := hresting.force_rings hidle script.initial
  have hforced : bench.service.router.force bench.stack.surroundings.directory script.initial = _ :=
    Router.force_of_covers h
  rw [hforced] at hforce
  rw [← bench.now_take (.force script.initial)] at hrings
  obtain ⟨rung, more, hafter, hspan, hahead⟩ := hrings.span htake
  refine ⟨htake, after, rung, more, ?_, hafter, hrings.idle htake, hspan,
    hahead.trans htake.ringsAhead_le⟩
  have hforce : (Bench.start timeouts script.connected).force script.initial = (after, .ok ()) :=
    hforce
  simp only [start, hforce]
  rfl

theorem start_follows (timeouts : Timeouts) (script : Script)
    (h : (Stack.ofDevices script.connected).recency.directory.Covers script.initial) :
    ∃ replay actions, start script timeouts = .ok replay ∧
      replay.Follows timeouts script [] actions := by
  obtain ⟨hopened, after, rung, more, hstart, hafter, hidle, hspan, hahead⟩ :=
    start_span timeouts script h
  have hinputs := hopened.inputs_append hspan
  have hcauses := hopened.causes_append hspan
  have hopening : (Service.start (.new timeouts)).causes
      (opening (Bench.start timeouts script.connected) script.initial) = [] := rfl
  rw [hopening, List.nil_append] at hcauses
  have hpublished := hafter.published_eq
  rw [hcauses, List.length_map] at hpublished
  refine ⟨_, _, hstart, hafter, hidle, ?_, rfl, Nat.zero_le _, ?_, ?_, ?_⟩
  · exact ⟨_, _, hinputs, h, unforced_events _ _⟩
  · show after.service.feed.published ≤ 0 + _
    omega
  · rw [hcauses, Cause.filterMap_sent?_rung]; rfl
  · rw [hcauses, Cause.filterMap_rung?_rung]
    show rung.length + after.service.ringsAhead ≤ _ * (0 + 1)
    omega

theorem Follows.length_transitions (h : replay.Follows timeouts script steps actions) :
    ((Router.new timeouts).transitions ((Service.start (.new timeouts)).inputs actions)).length =
      replay.bench.service.feed.published :=
  h.resting.carries.published.symm

/-- What a step brings about is collected, if the feed has room for the alarms. -/
theorem Follows.collect_played (h : replay.Follows timeouts script steps actions)
    (hroom : 4 * timeouts.retries + 3 ≤ Feed.capacity)
    (hplayed : Bench.Played timeouts actions replay.bench step rung more after) :
    let items :=
      (Router.new timeouts).transitions ((Service.start (.new timeouts)).inputs (actions ++ more))
    items.length ≤ replay.subscriber.next + Feed.capacity ∧
      ({ replay with bench := after } : Replay).collect = .ok ⟨after, ⟨items.length⟩, items⟩ := by
  intro items
  have harranged : (replay.bench.arrange step).Resting timeouts actions := h.resting.onStack _
  have hinputs := harranged.inputs_append hplayed.span
  have hcarries : after.service.feed.Carries items := hplayed.resting.carries
  have hlength : items.length = after.service.feed.published := hcarries.published.symm
  have hcollected : replay.collected = items.take replay.subscriber.next := by
    simp only [items]
    rw [hinputs, Router.transitions_append, List.take_append_of_le_length]
    · exact h.collected
    · rw [h.length_transitions]; exact h.subscribed
  -- up to the step, for its event, and for the alarms that rang during it
  have hpublished := hplayed.published_eq h.resting
  have hbacklog := h.backlog
  have hsent := step.length_event?_le
  have hbounded := hplayed.bounded
  have hfits : items.length ≤ replay.subscriber.next + Feed.capacity := by omega
  have hplace := h.subscribed
  exact ⟨hfits, collect_eq hcarries hcollected (by dsimp only; omega) hfits⟩

/-- When all is collected that a step brought about, the replay is one after that step too. -/
theorem Follows.played (h : replay.Follows timeouts script steps actions)
    (hplayed : Bench.Played timeouts actions replay.bench step rung more after) :
    let items :=
      (Router.new timeouts).transitions ((Service.start (.new timeouts)).inputs (actions ++ more))
    Follows timeouts script (steps ++ [step]) (actions ++ more)
      ⟨after, ⟨items.length⟩, items⟩ := by
  intro items
  have harranged : (replay.bench.arrange step).Resting timeouts actions := h.resting.onStack _
  have hcauses := harranged.causes_append hplayed.span
  have hinputs := harranged.inputs_append hplayed.span
  have hsteps := Step.filterMap_event?_concat steps step
  have hlength : items.length = after.service.feed.published :=
    hplayed.resting.carries.published.symm
  refine ⟨hplayed.resting, hplayed.idle, ?_, ?_, hlength.le, ?_, ?_, ?_⟩
  · obtain ⟨directory, rest, hopened, hcovers, hrest⟩ := h.opened
    refine ⟨directory, rest ++ _, by rw [hinputs, hopened]; rfl, hcovers, ?_⟩
    intro other route hmem
    rcases List.mem_append.1 hmem with hold | hnew
    · exact hrest other route hold
    · exact unforced_events _ _ other route hnew
  · exact List.take_length.symm
  · exact hlength.ge.trans (Nat.le_add_right _ _)
  · rw [hcauses, hsteps]
    simp only [List.filterMap_append, Cause.filterMap_sent?_sent, Cause.filterMap_sent?_rung,
      h.sent, List.append_nil]
  · have hrung := h.rung
    have hahead := hplayed.ahead
    rw [hcauses, hsteps, List.length_append, Nat.add_right_comm, Nat.mul_add]
    simp only [List.filterMap_append, Cause.filterMap_rung?_sent, Cause.filterMap_rung?_rung,
      List.nil_append, List.length_append]
    omega

/-- A step of a replay loses nothing, if the feed has room for what alarms bring about. -/
theorem Follows.play (h : replay.Follows timeouts script steps actions)
    (hroom : 4 * timeouts.retries + 3 ≤ Feed.capacity) (step : Step) :
    ∃ next rung more, (perform replay.bench step).bind Bench.flush = .ok next.bench ∧
      replay.play step = .ok next ∧
      next.Follows timeouts script (steps ++ [step]) (actions ++ more) ∧
      Bench.Played timeouts actions replay.bench step rung more next.bench ∧
      next.bench.service.feed.published ≤ replay.subscriber.next + Feed.capacity := by
  obtain ⟨after, rung, more, hperform, hplayed⟩ := h.resting.perform_played h.idle step
  obtain ⟨hfits, hcollect⟩ := h.collect_played hroom hplayed
  have hpublished := hplayed.resting.carries.published
  refine ⟨_, rung, more, hperform, ?_, h.played hplayed, hplayed, hpublished.le.trans hfits⟩
  rw [Replay.play, hperform]
  exact hcollect

/-- All that was done since the first route was accepted is a run that begins there. -/
theorem Follows.since_opened (h : replay.Follows timeouts script steps actions) :
    ∃ (opened : Router) (rest : List Input), opened.route = script.initial ∧ Unforced rest ∧
      (Router.new timeouts).transitions ((Service.start (.new timeouts)).inputs actions) =
        opened.transitions rest ∧
      replay.bench.service.router = opened.run rest := by
  obtain ⟨directory, rest, hinputs, hcovers, hrest⟩ := h.opened
  have hrouter := h.resting.router_eq
  rw [hinputs] at hrouter ⊢
  exact ⟨_, rest, Router.route_take_of_covers hcovers, hrest, rfl, hrouter⟩

theorem Follows.transitions_chain (h : replay.Follows timeouts script steps actions) :
    let transitions :=
      (Router.new timeouts).transitions ((Service.start (.new timeouts)).inputs actions)
    (∀ first ∈ transitions.head?, first.source = script.initial) ∧
      transitions.IsChain (·.target = ·.source) := by
  intro transitions
  obtain ⟨opened, rest, hroute, hrest, htransitions, -⟩ := h.since_opened
  have htransitions : transitions = opened.transitions rest := htransitions
  rw [htransitions, ← hroute]
  refine Router.transitions_chain fun moment hmem other route hforce => ?_
  exact absurd (hforce ▸ Router.input_mem_of_mem_moments hmem) (hrest other route)

/-- The service stops, and what is left is collected. -/
theorem Follows.finish (h : replay.Follows timeouts script steps actions)
    (hroom : 4 * timeouts.retries + 3 ≤ Feed.capacity) :
    ∃ last, replay.finish = .ok last ∧ last.collected = (Router.new timeouts).transitions
      ((Service.start (.new timeouts)).inputs actions) := by
  have hbacklog := h.backlog
  have hsubscribed := h.subscribed
  have hlength := h.length_transitions
  have hcarries := h.resting.carries
  rw [← h.resting.feed_shutdown h.idle] at hcarries
  have hcollect : ({ replay with bench := replay.bench.shutdown } : Replay).collect = _ :=
    collect_eq hcarries h.collected (by dsimp only; omega) (by dsimp only; omega)
  exact ⟨_, hcollect, rfl⟩

end Replay

namespace Script

variable {timeouts : Timeouts} {script : Script}

theorem covers_initial (script : Script)
    (h : ∀ device, script.initial.device? = some device → device ∈ script.connected) :
    (Stack.ofDevices script.connected).recency.directory.Covers script.initial := by
  intro device hdevice
  exact Recency.contains_iff.2 (h device hdevice)

theorem replayed_concat (script : Script) (timeouts : Timeouts) (steps : List Step) (step : Step) :
    script.replayed timeouts (steps ++ [step]) =
      (script.replayed timeouts steps).bind (·.play step) := by
  simp only [replayed, List.foldlM_append, List.foldlM_cons, List.foldlM_nil, bind_pure]
  cases Replay.start script timeouts <;> rfl

/-- **Any steps can be played, if the first route is accepted.** -/
theorem follows_replayed
    (h : (Stack.ofDevices script.connected).recency.directory.Covers script.initial)
    (hroom : 4 * timeouts.retries + 3 ≤ Feed.capacity) (steps : List Step) :
    ∃ replay actions, script.replayed timeouts steps = .ok replay ∧
      replay.Follows timeouts script steps actions := by
  induction steps using List.reverseRecOn with
  | nil =>
    obtain ⟨replay, actions, hstart, hfollows⟩ := Replay.start_follows timeouts script h
    exact ⟨replay, actions, by rw [replayed, hstart]; rfl, hfollows⟩
  | append_singleton steps step ih =>
    obtain ⟨replay, actions, hreplayed, hfollows⟩ := ih
    obtain ⟨next, _, more, -, hplay, hnext, -⟩ := hfollows.play hroom step
    exact ⟨next, actions ++ more, by rw [replayed_concat, hreplayed]; exact hplay, hnext⟩

theorem run_eq (script : Script) (timeouts : Timeouts) :
    script.run timeouts =
      (script.replayed timeouts script.steps).bind fun replay =>
        replay.finish.map (·.collected) := by
  rw [run, replayed]
  cases Replay.start script timeouts with
  | error error => rfl
  | ok replay =>
    refine congrArg (script.steps.foldlM Replay.play replay).bind (funext fun played => ?_)
    show played.finish.bind _ = played.finish.map _
    cases played.finish <;> rfl

/-- A replay that follows its script to the end returns all transitions. -/
theorem run_of_follows {replay : Replay} {actions : List Action}
    (hreplayed : script.replayed timeouts script.steps = .ok replay)
    (h : replay.Follows timeouts script script.steps actions)
    (hroom : 4 * timeouts.retries + 3 ≤ Feed.capacity) :
    script.run timeouts = .ok ((Router.new timeouts).transitions
      ((Service.start (.new timeouts)).inputs actions)) := by
  obtain ⟨last, hfinish, hcollected⟩ := h.finish hroom
  rw [run_eq, hreplayed, ← hcollected]
  show replay.finish.map _ = _
  rw [hfinish]
  rfl

/-- A first route of a device that is not connected is refused before anything is sent. -/
theorem start_refused (script : Script) (timeouts : Timeouts) {device : Device}
    (hdevice : script.initial.device? = some device) (hunknown : device ∉ script.connected) :
    let refused := ((Bench.start timeouts script.connected).force script.initial).1
    Replay.start script timeouts =
        .error (.invalidInitialState (.refused (.unknownDevice device))) ∧
      refused.service.router = .new timeouts ∧ refused.service.feed.published = 0 ∧
      refused.stack.commands = [] := by
  intro refused
  have hresting := Bench.resting_start timeouts script.connected
  set bench := Bench.start timeouts script.connected with hbench
  have hidle : bench.Idle := fun alarm hmem => by cases hmem
  have hforced : bench.service.router.force bench.stack.surroundings.directory script.initial =
      .error (.unknownDevice device) :=
    Router.force_of_unknown hdevice (by
      rw [← Bool.not_eq_true]
      exact fun hcontains => hunknown (Recency.contains_iff.1 hcontains))
  obtain ⟨after, hrings, hforce⟩ := hresting.force_rings hidle script.initial
  rw [hforced] at hforce
  have htake : bench.take (.force script.initial) =
      { bench with service := bench.service.reply (.forced (some (.unknownDevice device))) } := by
    rw [Bench.take, Service.handle, Service.handleForce, hforced]
    simp [Stack.record]
  have hafter : after = bench.take (.force script.initial) := by
    rw [htake] at hrings ⊢
    cases hrings with
    | rest => rfl
    | ring halarm => cases halarm
  have hrefused : refused = bench.take (.force script.initial) := by
    rw [← hafter]; exact congrArg Prod.fst hforce
  refine ⟨?_, ?_, ?_, ?_⟩
  · rw [Replay.start, ← hbench]
    simp only [hforce]
  · rw [hrefused, htake]; rfl
  · rw [hrefused, htake]; rfl
  · rw [hrefused, htake]; rfl

/-- **Replays lose nothing.**  A script whose first route is that of a device that is not
    connected fails for that reason, before anything is sent.  Any other succeeds: it returns the
    transitions of all that its service handled, one for each event, in order, and each names its
    event; the events are those of the steps that send one, in order, and expiries of timers whose
    alarm rang, each timer's at most once and no more of them than the retries allow for each
    event and for the first route; and the transitions go on one from another, beginning at the
    first route.  The feed has room for all that is published from one reading to the next. -/
theorem lossless_replay (script : Script) (confirmation backoff : Duration) (asked : Nat) :
    let timeouts := Timeouts.of confirmation backoff asked
    let router := Router.new timeouts
    let start := Service.start router
    (∀ device, script.initial.device? = some device → device ∉ script.connected →
      script.run timeouts = .error (.invalidInitialState (.refused (.unknownDevice device))) ∧
      let refused := ((Bench.start timeouts script.connected).force script.initial).1
      refused.service.router = router ∧ refused.service.feed.published = 0 ∧
        refused.stack.commands = []) ∧
    ((∀ device, script.initial.device? = some device → device ∈ script.connected) →
      (∃ replay actions,
        let causes := start.causes actions
        let sent := script.steps.filterMap (·.event?)
        let rung := causes.filterMap (·.rung?)
        let transitions := router.transitions (start.inputs actions)
        script.replayed timeouts script.steps = .ok replay ∧
        replay.bench.service = start.replay actions ∧
        script.run timeouts = .ok transitions ∧
        transitions.map (·.event) = causes.map (·.event.kind) ∧
        causes.filterMap (·.sent?) = sent ∧
        (rung.map (·.request)).Sublist ((start.armings actions).map (·.request)) ∧
        rung.length ≤ (2 * timeouts.retries + 1) * (sent.length + 1) ∧
        (∀ first ∈ transitions.head?, first.source = script.initial) ∧
        transitions.IsChain (·.target = ·.source) ∧
        replay.bench.shutdown.service.feed.published ≤
          replay.subscriber.next + Feed.capacity) ∧
      ∀ before step after, script.steps = before ++ step :: after →
        ∃ replay bench, script.replayed timeouts before = .ok replay ∧
          (Replay.perform replay.bench step).bind Bench.flush = .ok bench ∧
          bench.service.feed.published ≤ replay.subscriber.next + Feed.capacity) := by
  intro timeouts router start
  have hroom := Timeouts.room_of confirmation backoff asked
  refine ⟨fun device hdevice hunknown => ?_, fun hknown => ?_⟩
  · obtain ⟨hstart, hrefused⟩ := script.start_refused timeouts hdevice hunknown
    exact ⟨by rw [run, hstart]; rfl, hrefused⟩
  have hcovers := script.covers_initial hknown
  refine ⟨?_, fun before step after hsteps => ?_⟩
  · obtain ⟨replay, actions, hreplayed, h⟩ := follows_replayed hcovers hroom script.steps
    have hrun := run_of_follows hreplayed h hroom
    have hrung : (((start.causes actions).filterMap (·.rung?)).map (·.request)).Sublist
        ((start.armings actions).map (·.request)) :=
      (List.sublist_append_left _ _).trans
        ((Service.timed_start timeouts {}).rung_sublist actions)
    have hbudget := (Nat.le_add_right _ _).trans h.rung
    have hbacklog := h.backlog
    obtain ⟨hfirst, hchain⟩ := h.transitions_chain
    refine ⟨replay, actions, hreplayed, h.resting.service_eq, hrun, h.resting.map_event, h.sent,
      hrung, hbudget, hfirst, hchain, ?_⟩
    rw [h.resting.feed_shutdown h.idle]
    exact hbacklog.trans (by omega)
  · obtain ⟨replay, actions, hreplayed, h⟩ := follows_replayed hcovers hroom before
    obtain ⟨next, _, _, hperform, -, -, -, hpublished⟩ := h.play hroom step
    exact ⟨replay, next.bench, hreplayed, hperform, hpublished⟩

/-- A device that does not confirm, neither at first nor when it is tried again, and the same
    script on a stack that does not know it. -/
theorem lossless_replay_unconfirmed :
    let timeouts := Timeouts.of (.ofMillis 5000) (.ofMillis 500) 3
    let script : Script := {
      connected := [⟨"A"⟩]
      initial := .connecting ⟨"A"⟩
      steps := [.wait 10500, .send .disconnect] }
    let stranger : Script := { script with connected := [] }
    (∃ transitions, script.run timeouts = .ok transitions ∧
      transitions.map (·.event) =
        [.expired .confirmation, .expired .retry, .expired .confirmation, .disconnect] ∧
      (∀ first ∈ transitions.head?, first.source = .connecting ⟨"A"⟩) ∧
      transitions.IsChain (·.target = ·.source)) ∧
    stranger.run timeouts = .error (.invalidInitialState (.refused (.unknownDevice ⟨"A"⟩))) := by
  intro timeouts script stranger
  have hrun : (script.run timeouts).toOption.map (·.map (·.event)) =
      some [.expired .confirmation, .expired .retry, .expired .confirmation, .disconnect] := by
    decide
  obtain ⟨-, haccepted⟩ := lossless_replay script (.ofMillis 5000) (.ofMillis 500) 3
  obtain ⟨hrefused, -⟩ := lossless_replay stranger (.ofMillis 5000) (.ofMillis 500) 3
  obtain ⟨⟨replay, actions, -, -, hok, -, -, -, -, hfirst, hchain, -⟩, -⟩ :=
    haccepted fun device hdevice => by cases hdevice; exact List.mem_singleton_self _
  refine ⟨⟨_, hok, ?_, hfirst, hchain⟩, (hrefused _ rfl (by simp [stranger])).1⟩
  rw [hok] at hrun
  exact Option.some.inj hrun

end Script

end CallAudio
