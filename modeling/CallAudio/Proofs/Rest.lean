/-
  A bench from one rest to the next.

  A bench rests when nothing is enqueued and its alarm, if it has one, is not overdue.  From there
  it goes on only because a caller enqueues something or because the alarm rings, and what it does
  then are actions of its service.

  * `Bench.Resting`: a bench that rests, and the history of its service;
  * `Bench.take`, `Bench.work_queued`: a bench handles what is enqueued, one message after the
    other;
  * `Bench.Rings`: the alarms that are due before some time ring one after the other, until none
    is left; `Bench.rings_ringMany` says that `Bench.ringMany` gets as far as that;
  * `Service.ringsAhead`: how many alarms can ring before a caller does anything;
  * `Bench.Span`: what became of a bench, and why; `Bench.Rings.span`: alarms alone;
  * `Bench.flush_rings`, `Bench.settle_rings`, `Bench.sleep_rings`: the calls that wait.
-/
import CallAudio.Bench
import CallAudio.Proofs.Cause
import CallAudio.Proofs.Retry

namespace CallAudio

namespace Service

variable {service : Service}

/-! ## Messages -/

theorem now_handle (service : Service) (world : Surroundings) (message : Message) :
    (service.handle world message).1.now = service.now := by
  cases hinput : message.input? world with
  | some input =>
    obtain ⟨_, _, _, heq⟩ := service.handle_eq hinput
    obtain ⟨_, _, _, hobey⟩ := obey_eq
      { service with router := Moment.after ⟨service.router, input⟩ }
      (Moment.timer ⟨service.router, input⟩)
    rw [heq, hobey]
  | none =>
    cases message with
    | event event => cases hinput
    | force route => cases hinput
    | flush => rfl
    | stop => exact service.now_dropAlarm

theorem due_of_mem_obey {timer : TimerAction} {alarm : Alarm}
    (h : alarm ∈ (service.obey timer).alarms) :
    alarm ∈ service.alarms ∨ alarm.due = service.now + alarm.request.delay.waitMillis := by
  cases timer with
  | keep => exact .inl h
  | cancel => exact .inl (service.alarms_dropAlarm_sublist.subset h)
  | arm request =>
    rcases List.mem_append.1 h with hold | hnew
    · exact .inl (service.alarms_dropAlarm_sublist.subset hold)
    · rw [List.mem_singleton.1 hnew, now_dropAlarm]
      exact .inr rfl

theorem due_of_mem_handle {world : Surroundings} {message : Message} {alarm : Alarm}
    (h : alarm ∈ (service.handle world message).1.alarms) :
    alarm ∈ service.alarms ∨ alarm.due = service.now + alarm.request.delay.waitMillis := by
  cases hinput : message.input? world with
  | some input =>
    obtain ⟨_, _, _, heq⟩ := service.handle_eq hinput
    rw [heq] at h
    exact @due_of_mem_obey { service with router := Moment.after ⟨service.router, input⟩ } _ _ h
  | none =>
    cases message with
    | event event => cases hinput
    | force route => cases hinput
    | flush => exact .inl h
    | stop => exact .inl (service.alarms_dropAlarm_sublist.subset h)

/-! ## Time -/

theorem now_le_act (service : Service) (action : Action) :
    service.now ≤ (service.act action).now := by
  cases action with
  | enqueue message => rw [act_enqueue]; split <;> exact Nat.le_refl _
  | pass time => exact Nat.le_max_left _ _
  | ring number =>
    rcases service.ring_cases number with heq | ⟨alarm, -, -, -, heq⟩
    · exact (congrArg Service.now heq).ge
    · exact (congrArg Service.now heq).ge
  | handle world =>
    rw [act, handleNext]
    cases service.queue with
    | nil => exact Nat.le_refl _
    | cons message rest => exact (now_handle { service with queue := rest } world message).ge

theorem now_le_replay (service : Service) (actions : List Action) :
    service.now ≤ (service.replay actions).now := by
  induction actions generalizing service with
  | nil => exact Nat.le_refl _
  | cons action actions ih => exact (service.now_le_act action).trans (ih _)

theorem time_le_now {actions : List Action} {arming : Arming}
    (h : arming ∈ service.armings actions) : arming.time ≤ (service.replay actions).now := by
  induction actions generalizing service with
  | nil => cases h
  | cons action actions ih =>
    rcases List.mem_append.1 h with hfirst | hlater
    · obtain ⟨input, -, harming⟩ := Option.bind_eq_some_iff.1 (Option.mem_toList.1 hfirst)
      obtain ⟨request, -, rfl⟩ := Option.map_eq_some_iff.1 harming
      exact (service.now_le_act action).trans (now_le_replay _ actions)
    · exact ih hlater

/-! ## How many alarms can ring -/

/-- No alarm is due before `time`. -/
def QuietUntil (service : Service) (time : Nat) : Prop :=
  ∀ alarm ∈ service.alarms, time ≤ alarm.due

/-- How many alarms can ring before a caller does anything: those that follow from the
    outstanding timer, or one that the machine does not wait for. -/
def ringsAhead (service : Service) : Nat :=
  if service.alarms = [] then 0 else max 1 service.router.machine.expiriesAhead

theorem ringsAhead_of_nil (h : service.alarms = []) : service.ringsAhead = 0 := if_pos h

theorem ringsAhead_le (service : Service) :
    service.ringsAhead ≤ service.router.machine.expiriesAhead + 1 := by
  unfold ringsAhead
  split <;> omega

theorem one_le_expiriesAhead {machine : Machine} (h : machine.pending ≠ none) :
    1 ≤ machine.expiriesAhead := by
  unfold Machine.expiriesAhead
  split
  · contradiction
  · next timer _ => cases timer.kind <;> simp

variable {timeouts : Timeouts} {armings : List Arming}

/-- An alarm that rings is one of those that can. -/
theorem Timed.ringsAhead_ring (h : service.Timed timeouts armings) {alarm : Alarm}
    (halarm : service.alarms = [alarm]) (now : Nat) (world : Surroundings) :
    let rung := { service with alarms := [], now }
    1 + (rung.handle world (.event alarm.request.event)).1.ringsAhead ≤ service.ringsAhead := by
  intro rung
  set after := (rung.handle world (.event alarm.request.event)).1
  set moment : Moment := ⟨service.router, .event world alarm.request.event⟩ with hmoment
  have hrouter : after.router = moment.after := (rung.handle_seen world (.event _)).1
  have hleft : (after.alarms.map (·.request)).Sublist moment.armed?.toList :=
    rung.alarms_handle_sublist world (.event alarm.request.event)
  have hahead : service.ringsAhead = max 1 service.router.machine.expiriesAhead :=
    if_neg (by simp [halarm])
  rcases moment.expiry_cases rfl with hstale | ⟨_, timer, hinput, hpending⟩
  · rw [Moment.armed?_of_isStale hstale] at hleft
    rw [ringsAhead_of_nil (by simpa using hleft), hahead]
    omega
  · have hsound := h.accounted.sound
    have hevent : alarm.request.event = .expired timer.kind timer.generation :=
      (Input.event.inj hinput).2
    have hspends := (Machine.process_spends hsound hpending world).expiries
    have hmachine : after.router.machine = (service.router.machine.process world
        (.expired timer.kind timer.generation)).machine := by
      rw [hrouter, hmoment, hevent]; rfl
    rw [← hmachine] at hspends
    -- an alarm that is left was set for the timer that is outstanding now
    have hrest : after.ringsAhead ≤ after.router.machine.expiriesAhead := by
      rcases moment.change hsound with ⟨-, htimer⟩ | hchange
      · rw [Moment.armed?_of_keep htimer] at hleft
        rw [ringsAhead_of_nil (by simpa using hleft)]
        exact Nat.zero_le _
      · rw [← Moment.request?_of_change hchange, ← hrouter] at hleft
        cases hnext : after.router.machine.pending with
        | none =>
          rw [Machine.request?, hnext] at hleft
          rw [ringsAhead_of_nil (by simpa using hleft)]
          exact Nat.zero_le _
        | some next =>
          have hpos := @one_le_expiriesAhead after.router.machine (by simp [hnext])
          unfold ringsAhead
          split <;> omega
    omega

end Service

namespace Bench

variable {timeouts : Timeouts} {actions : List Action} {bench : Bench} {alarm : Alarm}

/-! ## Handling what is enqueued -/

/-- Handles a message at once. -/
def take (bench : Bench) (message : Message) : Bench :=
  let (service, commands) := bench.service.handle bench.stack.surroundings message
  { service, stack := bench.stack.record commands }

theorem now_take (bench : Bench) (message : Message) :
    (bench.take message).service.now = bench.service.now :=
  bench.service.now_handle bench.stack.surroundings message

theorem due_of_mem_take {message : Message} (h : alarm ∈ (bench.take message).service.alarms) :
    alarm ∈ bench.service.alarms ∨
      alarm.due = bench.service.now + alarm.request.delay.waitMillis :=
  Service.due_of_mem_handle h

/-- The bench with `messages` enqueued, and nothing else. -/
def queued (bench : Bench) (messages : List Message) : Bench :=
  { bench with service := { bench.service with queue := messages } }

theorem queued_nil (h : bench.service.queue = []) : bench.queued [] = bench := by
  rw [queued, ← h]

theorem enqueue_of_running (hrunning : bench.service.running = true) (message : Message) :
    bench.enqueue message = .ok (bench.queued (bench.service.queue ++ [message])) := by
  rw [enqueue, Service.enqueue, if_pos hrunning]; rfl

theorem handleNext_queued {message : Message} (h : message ≠ .stop) (rest : List Message) :
    (bench.queued (message :: rest)).handleNext = (bench.take message).queued rest := by
  have hhandle := bench.service.handle_with_queue bench.stack.surroundings h rest
  rw [handleNext, Service.handleNext, queued]
  simp only [hhandle]
  rfl

/-- What is enqueued is handled one after the other. -/
theorem work_queued {messages : List Message} (h : .stop ∉ messages) :
    (bench.queued messages).work = (messages.foldl take bench).queued [] := by
  show handleMany messages.length _ = _
  induction messages generalizing bench with
  | nil => rfl
  | cons message rest ih =>
    have hne : message ≠ .stop := fun heq => h (heq ▸ List.mem_cons_self)
    rw [List.length_cons, handleMany, handleNext_queued hne]
    exact ih fun hmem => h (.tail _ hmem)

theorem ring_of_quiet (h : bench.service.QuietUntil (bench.service.now + 1)) :
    bench.ring = bench := by
  unfold ring
  split
  · next alarm _ =>
    rcases bench.service.ring_cases alarm.number with heq | ⟨other, hmem, -, hdue, -⟩
    · rw [heq]
    · have := h other hmem
      omega
  · rfl

/-- An alarm that is due rings, and none is left. -/
theorem ring_of_due (halarm : bench.service.alarms = [alarm])
    (hdue : alarm.due ≤ bench.service.now) (hrunning : bench.service.running = true) :
    bench.ring = { bench with service := { bench.service with
      alarms := [], queue := bench.service.queue ++ [.event alarm.request.event] } } := by
  simp [ring, Service.alarm, Service.ring, halarm, hdue, hrunning, Alarm.without]

/-! ## Rest -/

/-- A bench that rests, with the service that it has after `actions`. -/
structure Resting (timeouts : Timeouts) (actions : List Action) (bench : Bench) : Prop where
  /-- The service went through `actions`. -/
  service_eq : bench.service = (Service.start (.new timeouts)).replay actions
  /-- It is still running. -/
  running : bench.service.running = true
  /-- Nothing is enqueued. -/
  queue_eq : bench.service.queue = []
  /-- No alarm is overdue. -/
  punctual : bench.service.QuietUntil bench.service.now

theorem resting_start (timeouts : Timeouts) (devices : List Device) :
    (start timeouts devices).Resting timeouts [] where
  service_eq := rfl
  running := rfl
  queue_eq := rfl
  punctual alarm hmem := by cases hmem

namespace Resting

theorem onStack (h : bench.Resting timeouts actions) (stack : Stack) :
    Resting timeouts actions { bench with stack } :=
  ⟨h.service_eq, h.running, h.queue_eq, h.punctual⟩

theorem timed (h : bench.Resting timeouts actions) :
    bench.service.Timed timeouts ((Service.start (.new timeouts)).armings actions) := by
  rw [h.service_eq]
  exact Service.timed_replay (Service.timed_start timeouts {}) actions

theorem router_eq (h : bench.Resting timeouts actions) :
    bench.service.router =
      (Router.new timeouts).run ((Service.start (.new timeouts)).inputs actions) := by
  rw [h.service_eq]
  exact Service.router_replay _ actions

theorem timeouts_eq (h : bench.Resting timeouts actions) :
    bench.service.router.machine.timeouts = timeouts :=
  h.timed.accounted.timeouts_eq

theorem budgeted (h : bench.Resting timeouts actions) :
    Budgeted timeouts.retries bench.service.router.machine.pending := by
  rw [h.router_eq]
  exact Router.budgeted_run timeouts _

/-- Without a caller no more alarms ring than the retries allow. -/
theorem ringsAhead_le (h : bench.Resting timeouts actions) :
    bench.service.ringsAhead ≤ 2 * timeouts.retries + 1 := by
  have hahead := (@Machine.ahead_le bench.service.router.machine
    (h.timeouts_eq.symm ▸ h.budgeted)).2
  rw [h.timeouts_eq] at hahead
  unfold Service.ringsAhead
  split <;> omega

theorem alarms_cases (h : bench.Resting timeouts actions) :
    bench.service.alarms = [] ∨ ∃ alarm, bench.service.alarms = [alarm] := by
  rcases h.timed.alarmed.held with hnil | ⟨alarm, halarm, -⟩
  · exact .inl hnil
  · exact .inr ⟨alarm, halarm⟩

end Resting

/-! ## What becomes of a bench -/

/-- What became of `bench` while its service went through `more`: `causes` brought events into
    the queue, and the stack received nothing but commands. -/
structure Span (bench : Bench) (causes : List Cause) (more : List Action) (after : Bench) :
    Prop where
  /-- The service went through `more`. -/
  service_eq : after.service = bench.service.replay more
  /-- The stack received commands. -/
  stack_eq : ∃ commands, after.stack = bench.stack.record commands
  /-- The events have these causes. -/
  causes_eq : bench.service.causes more = causes
  /-- The router got the events, and nothing else, while the stack answered as it does. -/
  inputs_eq : bench.service.inputs more =
    causes.map fun cause => .event bench.stack.surroundings cause.event

variable {causes others : List Cause} {more rest : List Action} {middle after : Bench}

theorem span_refl (bench : Bench) : bench.Span [] [] bench where
  service_eq := rfl
  stack_eq := ⟨[], by simp [Stack.record]⟩
  causes_eq := rfl
  inputs_eq := rfl

theorem Span.trans (h : bench.Span causes more middle) (hrest : middle.Span others rest after) :
    bench.Span (causes ++ others) (more ++ rest) after := by
  obtain ⟨commands, hstack⟩ := h.stack_eq
  obtain ⟨later, hlater⟩ := hrest.stack_eq
  refine ⟨?_, ⟨commands ++ later, ?_⟩, ?_, ?_⟩
  · rw [hrest.service_eq, h.service_eq, Service.replay_append]
  · rw [hlater, hstack]; simp [Stack.record]
  · rw [Service.causes_append, h.causes_eq, ← h.service_eq, hrest.causes_eq]
  · rw [Service.inputs_append, h.inputs_eq, ← h.service_eq, hrest.inputs_eq, List.map_append,
      hstack]
    rfl

theorem Resting.span (h : bench.Resting timeouts actions) (hspan : bench.Span causes more after)
    (hrunning : after.service.running = true) (hqueue : after.service.queue = [])
    (hpunctual : after.service.QuietUntil after.service.now) :
    after.Resting timeouts (actions ++ more) :=
  ⟨by rw [hspan.service_eq, h.service_eq, Service.replay_append], hrunning, hqueue, hpunctual⟩

theorem span_advance (bench : Bench) (time : Nat) :
    bench.Span [] [.pass time] (bench.advance time) where
  service_eq := rfl
  stack_eq := ⟨[], by simp [Stack.record, advance]⟩
  causes_eq := rfl
  inputs_eq := rfl

theorem Resting.advance (h : bench.Resting timeouts actions) {time : Nat}
    (hquiet : bench.service.QuietUntil time) :
    (bench.advance time).Resting timeouts (actions ++ [.pass time]) := by
  refine h.span (bench.span_advance time) h.running h.queue_eq fun alarm hmem => ?_
  have hnow := h.punctual alarm hmem
  have htime := hquiet alarm hmem
  exact Nat.max_le.2 ⟨hnow, htime⟩

/-! ## Messages that are handled at once -/

theorem Resting.service_take (h : bench.Resting timeouts actions) (message : Message) :
    (bench.take message).service =
      bench.service.replay [.enqueue message, .handle bench.stack.surroundings] := by
  have henqueued : bench.service.act (.enqueue message) = (bench.queued [message]).service := by
    rw [Service.act_enqueue, if_pos h.running, h.queue_eq]; rfl
  have hempty : (bench.queued []).service = bench.service :=
    congrArg Bench.service (queued_nil h.queue_eq)
  show _ = ((bench.service.act (.enqueue message)).handleNext bench.stack.surroundings).1
  rw [henqueued]
  show _ = ((bench.queued []).service.handle bench.stack.surroundings message).1
  rw [hempty]
  rfl

/-- A message that is handled at once leaves the bench at rest. -/
theorem Resting.take (h : bench.Resting timeouts actions) {message : Message}
    (hstop : message ≠ .stop) :
    (bench.take message).Resting timeouts
      (actions ++ [.enqueue message, .handle bench.stack.surroundings]) := by
  obtain ⟨hqueue, hrunning⟩ := bench.service.handle_of_ne_stop hstop bench.stack.surroundings
  refine ⟨?_, hrunning.trans h.running, hqueue.trans h.queue_eq, fun alarm hmem => ?_⟩
  · rw [h.service_take, h.service_eq, Service.replay_append]
  · rw [now_take]
    rcases due_of_mem_take hmem with hold | hdue
    · exact h.punctual alarm hold
    · omega

theorem Resting.span_take (h : bench.Resting timeouts actions) {message : Message}
    (hforce : ∀ route, message ≠ .force route) :
    bench.Span (message.event?.toList.map .sent)
      [.enqueue message, .handle bench.stack.surroundings] (bench.take message) := by
  refine ⟨h.service_take message, ⟨_, rfl⟩, ?_, ?_⟩
  · cases message <;> simp [Service.causes, Service.cause?, h.running, Message.event?]
  · cases message with
    | force route => exact absurd rfl (hforce route)
    | _ =>
      simp [Service.inputs, Service.input?, Service.act_enqueue, h.running, h.queue_eq,
        Message.event?, Message.input?, Cause.event]

/-! ## Alarms that ring -/

/-- The bench when its alarm has rung. -/
def rung (bench : Bench) (alarm : Alarm) : Bench :=
  { bench with service := { bench.service with alarms := [], now := alarm.due } }

theorem Resting.service_rung (h : bench.Resting timeouts actions)
    (halarm : bench.service.alarms = [alarm]) :
    (bench.service.advance alarm.due).ring alarm.number =
      ((bench.rung alarm).queued [.event alarm.request.event]).service := by
  have hnow : max bench.service.now alarm.due = alarm.due :=
    Nat.max_eq_right (h.punctual alarm (by simp [halarm]))
  simp [Service.advance, Service.ring, halarm, h.running, h.queue_eq, hnow, Alarm.without, rung,
    queued]

theorem Resting.ringAlarm_eq (h : bench.Resting timeouts actions)
    (halarm : bench.service.alarms = [alarm]) :
    bench.ringAlarm alarm = (bench.rung alarm).take (.event alarm.request.event) := by
  have hne : Message.event alarm.request.event ≠ .stop := by simp
  have hqueue := ((bench.rung alarm).service.handle_of_ne_stop hne bench.stack.surroundings).1
  have hring : (bench.advance alarm.due).ring =
      (bench.rung alarm).queued [.event alarm.request.event] := by
    have hnext : (bench.advance alarm.due).service.alarm = some alarm := by
      show bench.service.alarms.head? = some alarm
      rw [halarm, List.head?_cons]
    simp only [ring, hnext]
    exact congrArg (Bench.mk · bench.stack) (h.service_rung halarm)
  rw [ringAlarm, hring, work_queued (by simp)]
  exact queued_nil (hqueue.trans h.queue_eq)

/-- What a service goes through when its alarm rings as soon as it is due. -/
def ringing (bench : Bench) (alarm : Alarm) : List Action :=
  [.pass alarm.due, .ring alarm.number, .handle bench.stack.surroundings]

/-- The alarm is the one cause of what becomes of the bench when it rings. -/
theorem Resting.span_ringAlarm (h : bench.Resting timeouts actions)
    (halarm : bench.service.alarms = [alarm]) :
    bench.Span [.rung alarm] (bench.ringing alarm) (bench.ringAlarm alarm) := by
  have hring : (bench.service.act (.pass alarm.due)).act (.ring alarm.number) =
      ((bench.rung alarm).queued [.event alarm.request.event]).service := h.service_rung halarm
  rw [h.ringAlarm_eq halarm]
  refine ⟨?_, ⟨_, rfl⟩, ?_, ?_⟩
  · have hempty : (bench.rung alarm).queued [] = bench.rung alarm := queued_nil h.queue_eq
    show _ = (((bench.service.act (.pass alarm.due)).act (.ring alarm.number)).handleNext
      bench.stack.surroundings).1
    rw [hring]
    show _ = (((bench.rung alarm).queued []).service.handle bench.stack.surroundings _).1
    rw [hempty]
    rfl
  · have hdue : alarm.due ≤ max bench.service.now alarm.due := Nat.le_max_right _ _
    simp [ringing, Service.causes, Service.cause?, Service.act, Service.advance, halarm,
      h.running, Option.filter, hdue]
  · simp only [ringing, Service.inputs]
    rw [hring]
    simp [Service.input?, queued, Message.input?, Cause.event]

theorem Resting.ringAlarm (h : bench.Resting timeouts actions)
    (halarm : bench.service.alarms = [alarm]) :
    (bench.ringAlarm alarm).Resting timeouts (actions ++ bench.ringing alarm) := by
  have hspan := h.span_ringAlarm halarm
  rw [h.ringAlarm_eq halarm] at hspan ⊢
  set message : Message := .event alarm.request.event
  have hne : message ≠ .stop := by simp [message]
  obtain ⟨hqueue, hrunning⟩ :=
    (bench.rung alarm).service.handle_of_ne_stop hne bench.stack.surroundings
  refine h.span hspan (hrunning.trans h.running) (hqueue.trans h.queue_eq) fun other hmem => ?_
  rw [now_take]
  rcases due_of_mem_take hmem with hold | hdue
  · cases hold
  · rw [hdue]
    exact Nat.le_add_right _ _

/-- The alarms that are due before `time` ring one after the other, until none is left. -/
inductive Rings (time : Nat) : Bench → Bench → Prop
  /-- None is due before. -/
  | rest {bench : Bench} (hquiet : bench.service.QuietUntil time) : Rings time bench bench
  /-- The next one rings. -/
  | ring {bench after : Bench} {alarm : Alarm} (halarm : bench.service.alarms = [alarm])
      (hdue : alarm.due < time) (hrest : Rings time (bench.ringAlarm alarm) after) :
      Rings time bench after

variable {time : Nat}

/-- As many rings as are ahead leave no alarm that is due before. -/
theorem Resting.rings_ringMany (h : bench.Resting timeouts actions) {count : Nat}
    (hcount : bench.service.ringsAhead ≤ count) :
    Rings time bench (ringMany time count bench) := by
  induction count generalizing bench actions with
  | zero =>
    -- no ring is ahead, so there is no alarm
    refine .rest fun alarm hmem => ?_
    have hne : bench.service.alarms ≠ [] := List.ne_nil_of_mem hmem
    rw [Service.ringsAhead, if_neg hne] at hcount
    omega
  | succ count ih =>
    rw [ringMany, Service.alarm]
    rcases h.alarms_cases with hnil | ⟨alarm, halarm⟩
    · rw [hnil]
      exact .rest fun alarm hmem => by rw [hnil] at hmem; cases hmem
    · have hnow := h.punctual alarm (by simp [halarm])
      simp only [halarm, List.head?_cons]
      split
      · next hdue =>
        have hring := h.timed.ringsAhead_ring halarm alarm.due bench.stack.surroundings
        have hlast : (bench.ringAlarm alarm).service.ringsAhead ≤ count := by
          rw [h.ringAlarm_eq halarm]
          exact Nat.le_of_add_le_add_left (hring.trans (hcount.trans (Nat.add_comm _ _).le))
        exact .ring halarm hdue (ih (h.ringAlarm halarm) hlast)
      · next hdue =>
        refine .rest fun other hmem => ?_
        rw [halarm, List.mem_singleton] at hmem
        rw [hmem]
        exact Nat.le_of_not_lt hdue

theorem Rings.quiet (h : Rings time bench after) : after.service.QuietUntil time := by
  induction h with
  | rest hquiet => exact hquiet
  | ring _ _ _ ih => exact ih

/-- What becomes of a bench that is left alone: some alarms ring, of those that can. -/
theorem Rings.span (h : Rings time bench after) (hresting : bench.Resting timeouts actions) :
    ∃ (rung : List Alarm) (more : List Action), after.Resting timeouts (actions ++ more) ∧
      bench.Span (rung.map .rung) more after ∧
      rung.length + after.service.ringsAhead ≤ bench.service.ringsAhead := by
  induction h generalizing actions with
  | rest => exact ⟨[], [], by rwa [List.append_nil], span_refl _, by simp⟩
  | @ring bench after alarm halarm hdue hrest ih =>
    have hring := hresting.timed.ringsAhead_ring halarm alarm.due bench.stack.surroundings
    obtain ⟨rung, more, hafter, hspan, hahead⟩ := ih (hresting.ringAlarm halarm)
    refine ⟨alarm :: rung, bench.ringing alarm ++ more, ?_, ?_, ?_⟩
    · rwa [← List.append_assoc]
    · exact (hresting.span_ringAlarm halarm).trans hspan
    · rw [hresting.ringAlarm_eq halarm] at hahead
      have hring : 1 + ((bench.rung alarm).take (.event alarm.request.event)).service.ringsAhead ≤
        bench.service.ringsAhead := hring
      rw [List.length_cons]
      omega

theorem Span.now_le (h : bench.Span causes more after) :
    bench.service.now ≤ after.service.now := by
  rw [h.service_eq]
  exact bench.service.now_le_replay more

theorem Rings.now_lt (h : Rings time bench after) (hresting : bench.Resting timeouts actions)
    (hnow : bench.service.now < time) : after.service.now < time := by
  induction h generalizing actions with
  | rest => exact hnow
  | @ring bench after alarm halarm hdue hrest ih =>
    refine ih (hresting.ringAlarm halarm) ?_
    rw [hresting.ringAlarm_eq halarm, now_take]
    exact hdue

/-- Nobody is told anything when an alarm rings. -/
theorem Rings.replies_eq (h : Rings time bench after)
    (hresting : bench.Resting timeouts actions) :
    after.service.replies = bench.service.replies := by
  induction h generalizing actions with
  | rest => rfl
  | @ring bench after alarm halarm hdue hrest ih =>
    rw [ih (hresting.ringAlarm halarm), hresting.ringAlarm_eq halarm]
    exact ((bench.rung alarm).service.handle_seen bench.stack.surroundings (.event _)).2.2.2

/-! ## The calls that wait -/

/-- Nothing is left to do at the present instant. -/
def Idle (bench : Bench) : Prop := bench.service.QuietUntil (bench.service.now + 1)

/-- What is enqueued is handled, and then the alarms ring that are due at once. -/
theorem settle_rings (hidle : bench.Idle) (messages : List Message) (hstop : .stop ∉ messages)
    (h : (messages.foldl take bench).Resting timeouts actions) :
    Rings (bench.service.now + 1) (messages.foldl take bench) (bench.queued messages).settle := by
  have hring : (bench.queued messages).ring = bench.queued messages := ring_of_quiet hidle
  have hwork : (bench.queued messages).work = messages.foldl take bench := by
    rw [work_queued hstop, queued_nil h.queue_eq]
  rw [settle, workBefore]
  simp only [hring, hwork]
  exact h.rings_ringMany (Service.ringsAhead_le _)

/-- Unless the bench is idle its alarm is due now. -/
theorem Resting.idle_or_due (h : bench.Resting timeouts actions) :
    bench.Idle ∨ ∃ alarm, bench.service.alarms = [alarm] ∧ alarm.due = bench.service.now := by
  rcases h.alarms_cases with hnil | ⟨alarm, halarm⟩
  · exact .inl fun alarm hmem => by rw [hnil] at hmem; cases hmem
  · rcases (h.punctual alarm (by simp [halarm])).eq_or_lt with hdue | hlater
    · exact .inr ⟨alarm, halarm, hdue.symm⟩
    · refine .inl fun other hmem => ?_
      rw [halarm, List.mem_singleton] at hmem
      exact hmem ▸ hlater

/-- A caller that flushes waits until no alarm is due any more. -/
theorem Resting.flush_rings (h : bench.Resting timeouts actions) :
    ∃ after, bench.flush = .ok after ∧
      Rings (bench.service.now + 1) (bench.take .flush) after := by
  have htake := h.take (show Message.flush ≠ .stop by simp)
  have henqueued := enqueue_of_running h.running .flush
  rw [h.queue_eq, List.nil_append] at henqueued
  refine ⟨(bench.queued [.flush]).settle, by rw [flush, henqueued]; rfl, ?_⟩
  rcases h.idle_or_due with hidle | ⟨alarm, halarm, hdue⟩
  · exact settle_rings hidle [.flush] (by simp) htake
  · -- the alarm rings behind the flush
    have hring : (bench.queued [.flush]).ring =
        (bench.rung alarm).queued [.flush, .event alarm.request.event] := by
      rw [@ring_of_due (bench.queued [.flush]) _ halarm hdue.le h.running, rung, hdue]
      rfl
    have hbehind := htake.ringAlarm halarm
    have hwork : (bench.queued [.flush]).ring.work = (bench.take .flush).ringAlarm alarm := by
      rw [hring, work_queued (by simp)]
      rw [htake.ringAlarm_eq halarm] at hbehind ⊢
      exact queued_nil hbehind.queue_eq
    refine .ring halarm (Nat.lt_succ_of_le hdue.le) ?_
    rw [settle, workBefore, hwork]
    exact hbehind.rings_ringMany (Service.ringsAhead_le _)

/-- While a caller sleeps the alarms ring that are due before it wakes. -/
theorem Resting.sleep_rings (h : bench.Resting timeouts actions) (hidle : bench.Idle) {ms : Nat}
    (hms : ms ≠ 0) :
    let wakes := bench.service.now + (Duration.ofMillis ms).waitMillis
    ∃ middle, Rings wakes bench middle ∧ bench.sleep ms = middle.advance wakes := by
  intro wakes
  have hring : bench.ring = bench := ring_of_quiet hidle
  have hwork : bench.work = bench := by rw [work, h.queue_eq]; rfl
  refine ⟨_, h.rings_ringMany (Service.ringsAhead_le _), ?_⟩
  rw [sleep, if_neg hms, runUntil, workBefore]
  simp only [hring, hwork]
  rfl

end Bench

end CallAudio
