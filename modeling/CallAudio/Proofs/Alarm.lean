/-
  The alarm of a service and the outstanding timer of its machine.

  The machine and the service each keep account of the timer, and all that keeps the two in
  step is what the machine asks for after each event.  It asks for nothing both when it leaves
  its timer alone and when it has consumed it, and a timer may be consumed that has not rung,
  since callers can enqueue expiries too.

  * `Service.Alarmed`: at most one alarm is left, which is for the timer armed last, and the
    service has hold of it; `Service.alarmed_replay`: so it is, whatever router it began with;
  * `Service.Timed`: moreover the outstanding timer has an alarm or its expiry is enqueued;
  * `Service.timed_replay`: so it is after every history;
  * `Service.outstanding_alarm`: what follows for the alarm of the outstanding timer.
-/
import CallAudio.Proofs.History
import CallAudio.Proofs.Stale

namespace CallAudio

/-- The alarm that is set for a timer. -/
def Arming.alarm (arming : Arming) (number : Nat) : Alarm where
  number := number
  request := arming.request
  due := arming.time + arming.request.delay.waitMillis

namespace Service

/-! ## The alarm -/

/-- At most one alarm is left, and the service has hold of it. -/
structure Alarmed (service : Service) (armings : List Arming) : Prop where
  /-- No other alarm is left than the one that the service has hold of. -/
  held : service.alarms = [] ∨
    ∃ alarm, service.alarms = [alarm] ∧ service.held = some alarm.number
  /-- The next alarm will have another number. -/
  fresh : ∀ alarm ∈ service.alarms, alarm.number < service.alarmsSet
  /-- The alarm is for the timer armed last. -/
  last : ∀ alarm ∈ service.alarms,
    ∃ arming, armings.getLast? = some arming ∧ alarm = arming.alarm alarm.number

variable {service : Service} {armings : List Arming}

theorem alarmed_of_nil (h : service.alarms = []) : service.Alarmed armings :=
  ⟨.inl h, by simp [h], by simp [h]⟩

/-- All else than the alarm is of no account. -/
theorem Alarmed.congr {other : Service} (h : service.Alarmed armings)
    (halarms : other.alarms = service.alarms) (hheld : other.held = service.held)
    (hset : other.alarmsSet = service.alarmsSet) : other.Alarmed armings := by
  refine ⟨?_, ?_, ?_⟩
  · rw [halarms, hheld]; exact h.held
  · rw [halarms, hset]; exact h.fresh
  · rw [halarms]; exact h.last

/-- To drop the alarm leaves none. -/
theorem Alarmed.dropAlarm_eq (h : service.Alarmed armings) :
    service.dropAlarm = { service with held := none, alarms := [] } := by
  unfold dropAlarm
  rcases h.held with hnil | ⟨alarm, halarm, hheld⟩
  · split
    · next hheld => rw [← hheld, ← hnil]
    · rw [hnil]; rfl
  · rw [hheld, halarm]
    simp [Alarm.without]

theorem Alarmed.dropAlarm (h : service.Alarmed armings) : service.dropAlarm.Alarmed armings :=
  alarmed_of_nil (by rw [h.dropAlarm_eq])

theorem alarmed_setAlarm (h : service.alarms = []) (request : TimerRequest) :
    (service.setAlarm request).Alarmed (armings ++ [⟨request, service.now⟩]) := by
  have halarms : (service.setAlarm request).alarms =
      [Arming.alarm ⟨request, service.now⟩ service.alarmsSet] := by
    rw [setAlarm, h]; rfl
  refine ⟨.inr ⟨_, halarms, rfl⟩, fun alarm hmem => ?_, fun alarm hmem => ?_⟩
  · rw [halarms, List.mem_singleton] at hmem
    rw [hmem]
    exact Nat.lt_succ_self _
  · rw [halarms, List.mem_singleton] at hmem
    exact ⟨_, List.getLast?_concat, by rw [hmem]; rfl⟩

/-- What is asked for after an event keeps the alarm in order. -/
theorem Alarmed.obey (h : service.Alarmed armings) (timer : TimerAction) :
    (service.obey timer).Alarmed (armings ++ timer.armed?.toList.map (⟨·, service.now⟩)) := by
  cases timer with
  | keep => simpa [Service.obey, TimerAction.armed?] using h
  | cancel => simpa [Service.obey, TimerAction.armed?] using h.dropAlarm
  | arm request =>
    have hset := @alarmed_setAlarm service.dropAlarm armings (by rw [h.dropAlarm_eq]) request
    rw [now_dropAlarm] at hset
    exact hset

/-- An alarm that is armed is left. -/
theorem alarms_obey_ne_nil {timer : TimerAction} {request : TimerRequest}
    (h : timer.armed? = some request) : (service.obey timer).alarms ≠ [] := by
  cases timer with
  | keep => cases h
  | cancel => cases h
  | arm other => simp [Service.obey, setAlarm]

/-- A route that is refused leaves the alarm alone.  One that is accepted drops it, and sets a
    new one for the timer that comes with the route. -/
theorem Alarmed.handleForce (h : service.Alarmed armings) (world : Surroundings)
    (route : Route) :
    match service.router.force world.directory route with
    | .error _ =>
      (service.handleForce world route).alarms = service.alarms ∧
        (service.handleForce world route).held = service.held ∧
        (service.handleForce world route).router = service.router
    | .ok (_, request) =>
      (service.handleForce world route).alarms = request.toList.map fun request =>
        ⟨service.alarmsSet, request, service.now + request.delay.waitMillis⟩ := by
  cases hforce : service.router.force world.directory route with
  | error fault => simp [Service.handleForce, hforce, reply]
  | ok result =>
    obtain ⟨router, request⟩ := result
    have hkept : Alarmed { service with router } armings := h.congr rfl rfl rfl
    simp only [Service.handleForce, hforce, hkept.dropAlarm_eq]
    cases request <;> rfl

/-- An alarm that rings was the only one. -/
theorem Alarmed.alarms_without (h : service.Alarmed armings) {alarm : Alarm}
    (hmem : alarm ∈ service.alarms) : Alarm.without alarm.number service.alarms = [] := by
  rcases h.held with hnil | ⟨only, honly, -⟩
  · rw [hnil] at hmem; cases hmem
  · rw [honly, List.mem_singleton] at hmem
    simp [honly, hmem, Alarm.without]

theorem Alarmed.handle (h : service.Alarmed armings) (world : Surroundings) (message : Message) :
    (service.handle world message).1.Alarmed
      (armings ++ ((message.input? world).bind fun input =>
        (Moment.armed? ⟨service.router, input⟩).map (⟨·, service.now⟩)).toList) := by
  cases hinput : message.input? world with
  | some input =>
    have hkept : Alarmed { service with router := Moment.after ⟨service.router, input⟩ } armings :=
      h.congr rfl rfl rfl
    obtain ⟨_, _, _, heq⟩ := service.handle_eq hinput
    rw [heq, Option.bind_some, Option.toList_map]
    exact (hkept.obey _).congr rfl rfl rfl
  | none =>
    rw [Option.bind_none, Option.toList_none, List.append_nil]
    cases message with
    | event event => cases hinput
    | force route => cases hinput
    | flush => exact h.congr rfl rfl rfl
    | stop => exact h.dropAlarm.congr rfl rfl rfl

theorem Alarmed.ring (h : service.Alarmed armings) (number : Nat) :
    (service.ring number).Alarmed armings := by
  rcases service.ring_cases number with heq | ⟨alarm, hmem, rfl, -, heq⟩
  · rw [heq]; exact h
  · rw [heq]; exact alarmed_of_nil (h.alarms_without hmem)

theorem Alarmed.act (h : service.Alarmed armings) (action : Action) :
    (service.act action).Alarmed (armings ++ (service.arming? action).toList) := by
  cases action with
  | handle world =>
    rw [Service.act, handleNext, arming?, input?]
    cases service.queue with
    | nil => simpa using h
    | cons message rest =>
      have hrest : Alarmed { service with queue := rest } armings := h.congr rfl rfl rfl
      exact hrest.handle world message
  | enqueue message =>
    rw [arming?_enqueue, Option.toList_none, List.append_nil, act_enqueue]
    split
    · exact h.congr rfl rfl rfl
    · exact h
  | pass time =>
    rw [arming?_pass, Option.toList_none, List.append_nil]
    exact h.congr rfl rfl rfl
  | ring number =>
    rw [arming?_ring, Option.toList_none, List.append_nil]
    exact h.ring number

/-- **No history leaves a second alarm.** -/
theorem alarmed_replay (h : service.Alarmed armings) (actions : List Action) :
    (service.replay actions).Alarmed (armings ++ service.armings actions) := by
  induction actions generalizing service armings with
  | nil => simpa [Service.armings, replay] using h
  | cons action actions ih =>
    rw [Service.armings, ← List.append_assoc]
    exact ih (h.act action)

/-! ## The outstanding timer -/

/-- The outstanding timer has an alarm, or its expiry is enqueued. -/
structure Timed (timeouts : Timeouts) (service : Service) (armings : List Arming) : Prop where
  /-- The alarm is in order. -/
  alarmed : service.Alarmed armings
  /-- The machine accounts for the timers that the service was told to arm. -/
  accounted : service.router.machine.Accounted timeouts (armings.map (·.request))
  /-- No outstanding timer is lost. -/
  kept : service.running = true → ∀ {timer}, service.router.machine.pending = some timer →
    service.alarms ≠ [] ∨ .event (.expired timer.kind timer.generation) ∈ service.queue

variable {timeouts : Timeouts} {world : Surroundings} {message : Message} {rest : List Message}

theorem timed_start (timeouts : Timeouts) (notifier : Notifier) :
    Timed timeouts (.start { machine := { timeouts }, notifier }) [] where
  alarmed := alarmed_of_nil rfl
  accounted := Machine.accounted_initial
  kept _ _ hpending := by cases hpending

/-- The alarm is for the outstanding timer, if there is one. -/
theorem Timed.request_eq (h : service.Timed timeouts armings) {timer : PendingTimer}
    (hpending : service.router.machine.pending = some timer) {alarm : Alarm}
    (halarm : alarm ∈ service.alarms) : alarm.request = timer.request timeouts := by
  obtain ⟨arming, hlast, heq⟩ := h.alarmed.last alarm halarm
  have hrequest := h.accounted.last hpending
  rw [List.getLast?_map, hlast] at hrequest
  rw [heq]
  exact Option.some.inj hrequest

/-- A message leaves the outstanding timer its alarm, or its expiry in the queue. -/
theorem Timed.kept_handle (h : service.Timed timeouts armings)
    (hqueue : service.queue = message :: rest) (world : Surroundings) :
    let after := ({ service with queue := rest }.handle world message).1
    after.running = true → ∀ {timer}, after.router.machine.pending = some timer →
      after.alarms ≠ [] ∨ .event (.expired timer.kind timer.generation) ∈ after.queue := by
  intro after hrunning timer hpending
  cases hinput : message.input? world with
  | some input =>
    have hsound := h.accounted.sound
    set moment : Moment := ⟨service.router, input⟩ with hmoment
    obtain ⟨_, _, _, heq⟩ := handle_eq { service with queue := rest } hinput
    simp only [after, heq, running_obey, router_obey, queue_obey, ← hmoment] at hrunning hpending ⊢
    rcases moment.change hsound with ⟨hmachine, htimer⟩ | hchange
    · have hbefore : service.router.machine.pending = some timer :=
        (congrArg Machine.pending hmachine).symm.trans hpending
      rw [htimer]
      refine (h.kept hrunning hbefore).imp_right fun hmem => ?_
      rw [hqueue, List.mem_cons] at hmem
      refine hmem.resolve_left fun hhead => ?_
      -- the expiry that is in the queue is the message that is handled: it is acted on
      subst hhead
      cases hinput
      have hchange := (Machine.process_outstanding hsound hbefore world).1
      exact absurd hmachine (hchange.ne hsound hbefore)
    · -- a timer that is outstanding after a change has just been armed
      obtain ⟨request, harmed⟩ := hchange.armed_of_pending hpending
      exact .inl (alarms_obey_ne_nil harmed)
  | none =>
    cases message with
    | event event => cases hinput
    | force route => cases hinput
    | flush =>
      refine (h.kept hrunning hpending).imp_right fun hmem => ?_
      rw [hqueue, List.mem_cons] at hmem
      exact hmem.resolve_left (by simp)
    | stop => cases hrunning

/-- An alarm that rings leaves its expiry in the queue. -/
theorem Timed.kept_ring (h : service.Timed timeouts armings) (number : Nat)
    (hrunning : (service.ring number).running = true) {timer : PendingTimer}
    (hpending : (service.ring number).router.machine.pending = some timer) :
    (service.ring number).alarms ≠ [] ∨
      .event (.expired timer.kind timer.generation) ∈ (service.ring number).queue := by
  rcases service.ring_cases number with heq | ⟨alarm, hmem, -, -, heq⟩
  · rw [heq] at hrunning hpending ⊢
    exact h.kept hrunning hpending
  · rw [heq] at hrunning hpending ⊢
    have hevent : alarm.request.event = .expired timer.kind timer.generation := by
      rw [h.request_eq hpending hmem]; rfl
    have hrunning : service.running = true := hrunning
    exact .inr (by simp [hrunning, hevent])

theorem Timed.accounted_act (h : service.Timed timeouts armings) (action : Action) :
    (service.act action).router.machine.Accounted timeouts
      ((armings ++ (service.arming? action).toList).map (·.request)) := by
  rw [router_act, arming?, List.map_append]
  cases service.input? action with
  | none => simpa using h.accounted
  | some input =>
    have hafter := @Moment.accounted_after ⟨service.router, input⟩ timeouts _ h.accounted
    have hmap : (Option.map (⟨·, service.now⟩ : _ → Arming)
        (Moment.armed? ⟨service.router, input⟩)).toList.map (·.request) =
          (Moment.armed? ⟨service.router, input⟩).toList := by
      cases Moment.armed? ⟨service.router, input⟩ <;> rfl
    rw [Option.bind_some, hmap]
    exact hafter

/-- Every action keeps the alarm and the outstanding timer together. -/
theorem Timed.act (h : service.Timed timeouts armings) (action : Action) :
    (service.act action).Timed timeouts (armings ++ (service.arming? action).toList) := by
  refine ⟨h.alarmed.act action, h.accounted_act action, fun hrunning timer hpending => ?_⟩
  cases action with
  | handle world =>
    simp only [Service.act, handleNext] at hrunning hpending ⊢
    cases hqueue : service.queue with
    | nil =>
      simp only [hqueue] at hrunning hpending ⊢
      exact hqueue ▸ h.kept hrunning hpending
    | cons message rest =>
      simp only [hqueue] at hrunning hpending ⊢
      exact h.kept_handle hqueue world hrunning hpending
  | enqueue message =>
    rw [act_enqueue] at hrunning hpending ⊢
    split at hrunning
    · next hruns =>
      rw [if_pos hruns] at hpending ⊢
      exact (h.kept hruns hpending).imp_right (List.mem_append_left _)
    · next hstopped => exact absurd hrunning hstopped
  | pass time => exact h.kept hrunning hpending
  | ring number => exact h.kept_ring number hrunning hpending

/-- **No history loses the outstanding timer or leaves a second alarm.** -/
theorem timed_replay (h : service.Timed timeouts armings) (actions : List Action) :
    (service.replay actions).Timed timeouts (armings ++ service.armings actions) := by
  induction actions generalizing service armings with
  | nil => simpa [Service.armings, replay] using h
  | cons action actions ih =>
    rw [Service.armings, ← List.append_assoc]
    exact ih (h.act action)

/-- **The service never loses and never multiplies a timer.**  After every history, whatever
    callers enqueue, the stack answers and the order in which things happen: at most one alarm
    is left; while the service is running, the machine's outstanding timer has that alarm,
    which is due its delay after it was armed, or the expiry is in the queue already; and there
    is such a timer whenever a device is connecting.  A route that is refused leaves the alarm
    alone; one that is accepted drops it and sets a new one for the timer that comes with it. -/
theorem outstanding_alarm (timeouts : Timeouts) (notifier : Notifier) (actions : List Action) :
    let start := Service.start { machine := { timeouts }, notifier }
    let service := start.replay actions
    let machine := service.router.machine
    service.alarms.length ≤ 1 ∧
    (∀ alarm ∈ service.alarms, alarm.number < service.alarmsSet) ∧
    (service.running = true → ∀ timer, machine.pending = some timer →
      (∃ alarm time, service.alarms = [alarm] ∧
        alarm.request = ⟨timer.kind, timer.generation, timeouts.delay timer.kind⟩ ∧
        (start.armings actions).getLast? = some ⟨alarm.request, time⟩ ∧
        alarm.due = time + alarm.request.delay.waitMillis) ∨
      .event (.expired timer.kind timer.generation) ∈ service.queue) ∧
    (∀ device, machine.route = .connecting device →
      ∃ timer, machine.pending = some timer ∧ timer.kind = .confirmation ∧
        timer.device = device) ∧
    ∀ world route rest, service.queue = .force route :: rest →
      let after := (service.handleNext world).1
      match service.router.force world.directory route with
      | .error _ =>
        after.alarms = service.alarms ∧ after.held = service.held ∧
          after.router = service.router
      | .ok (_, request) =>
        after.alarms = request.toList.map fun request =>
          ⟨service.alarmsSet, request, service.now + request.delay.waitMillis⟩ := by
  intro start service machine
  have h : service.Timed timeouts (start.armings actions) :=
    timed_replay (timed_start timeouts notifier) actions
  refine ⟨?_, h.alarmed.fresh, fun hrunning timer hpending => ?_,
    fun device => (h.accounted.sound.connecting_iff device).1, fun world route rest hqueue => ?_⟩
  · rcases h.alarmed.held with hnil | ⟨alarm, halarm, -⟩
    · simp [hnil]
    · simp [halarm]
  · rcases h.kept hrunning hpending with hleft | hqueued
    · obtain ⟨alarm, halarm, -⟩ := h.alarmed.held.resolve_left hleft
      have hmem : alarm ∈ service.alarms := by simp [halarm]
      obtain ⟨arming, hlast, heq⟩ := h.alarmed.last alarm hmem
      refine .inl ⟨alarm, arming.time, halarm, h.request_eq hpending hmem, ?_, ?_⟩
      · rw [hlast, heq]; rfl
      · rw [heq]; rfl
    · exact .inr hqueued
  · have halarmed : Alarmed { service with queue := rest } (start.armings actions) :=
      h.alarmed.congr rfl rfl rfl
    rw [handleNext, hqueue]
    exact halarmed.handleForce world route

/-- A device is connecting, and its alarm has rung. -/
theorem outstanding_alarm_rung :
    let world := (Stack.ofDevices [⟨"A"⟩]).surroundings
    let timeouts := Timeouts.of (.ofMillis 5000) (.ofMillis 500) 1
    let service := (Service.start (.new timeouts)).replay
      [.enqueue (.event (.connect none)), .handle world, .pass 4000, .pass 5000, .ring 0]
    service.running = true ∧
      service.router.machine.pending = some ⟨1, .confirmation, ⟨"A"⟩, 0⟩ ∧
      service.alarms = [] ∧
      .event (.expired .confirmation 1) ∈ service.queue := by
  intro world timeouts service
  have hrunning : service.running = true := by decide
  have hpending : service.router.machine.pending = some ⟨1, .confirmation, ⟨"A"⟩, 0⟩ := by
    decide
  have hnil : service.alarms = [] := by decide
  obtain ⟨-, -, htimer, -⟩ := outstanding_alarm timeouts {}
    [.enqueue (.event (.connect none)), .handle world, .pass 4000, .pass 5000, .ring 0]
  refine ⟨hrunning, hpending, hnil, (htimer hrunning _ hpending).resolve_left ?_⟩
  rintro ⟨alarm, _, halarm, -⟩
  exact absurd (hnil.symm.trans halarm) (by simp)

end Service

end CallAudio

