/-
  A stack that stays silent settles.

  A confirmation that does not come leads to a retry, and that one to another confirmation to wait
  for.  How long all this can take is told from the outstanding timer: it never takes longer than
  that, whatever was done before, since no more than one alarm is left and it is for that timer.

  * `PendingTimer.waitAhead`: how long it can take after an expiry until no timer is outstanding;
  * `Planned.wait_le`: the expiry of the outstanding timer leaves less of that than its alarm
    took;
  * `Service.EndsBy`: no timer is outstanding after some time, if nobody sends anything;
    `Bench.Rings.endsBy`: so it stays while alarms ring;
  * `Router.last_target`: the last transition ends on the route of the router;
  * `Script.silence_settles`: a script that ends with a wait that is long enough, and what holds
    of a service whenever it has nothing to do.
-/
import CallAudio.Proofs.Replay

namespace CallAudio

/-! ## How long it can take -/

/-- How long it can take after the expiry of a timer until none is outstanding, in milliseconds:
    each retry left waits and then has a confirmation to wait for, and so has the one that the
    timer is for. -/
def PendingTimer.waitAhead (timer : PendingTimer) (timeouts : Timeouts) : Nat :=
  let confirmation := timeouts.confirmation.waitMillis
  let backoff := timeouts.backoff.waitMillis
  let retriesLeft := timeouts.retries - timer.attempt
  match timer.kind with
  | .confirmation => retriesLeft * (backoff + confirmation)
  | .retry => confirmation + retriesLeft * (backoff + confirmation)

/-- How long it can take until a stack that stays silent settles, in milliseconds. -/
def Timeouts.settling (timeouts : Timeouts) : Nat :=
  let confirmation := timeouts.confirmation.waitMillis
  let backoff := timeouts.backoff.waitMillis
  confirmation + timeouts.retries * (backoff + confirmation)

variable {timeouts : Timeouts} {timer next : PendingTimer}

/-- The timer that an expiry leaves outstanding does not take longer than the one that expired
    could take. -/
theorem Planned.wait_le
    (h : Planned timeouts.retries timer.device timer.attempt (some next))
    (hfailed : timer.kind = .confirmation → next.kind = .retry) :
    (timeouts.delay next.kind).waitMillis + next.waitAhead timeouts ≤ timer.waitAhead timeouts := by
  obtain ⟨generation, kind, device, attempt⟩ := timer
  cases h with
  | confirmation =>
    cases kind with
    | confirmation => cases hfailed rfl
    | retry => exact Nat.le_refl _
  | retry _ hleft =>
    have hleft : attempt < timeouts.retries := hleft
    obtain ⟨left, hretries⟩ := Nat.exists_eq_add_of_lt hleft
    have hnow : timeouts.retries - attempt = left + 1 := by omega
    have hthen : timeouts.retries - (attempt + 1) = left := by omega
    dsimp only [Timeouts.delay, PendingTimer.waitAhead]
    rw [hnow, hthen, Nat.succ_mul]
    cases kind <;> dsimp only <;> omega

/-- No timer takes longer than a stack takes to settle. -/
theorem Budgeted.wait_le (h : Budgeted timeouts.retries (some timer)) :
    (timeouts.delay timer.kind).waitMillis + timer.waitAhead timeouts ≤ timeouts.settling := by
  obtain ⟨hle, hretry⟩ := h timer rfl
  obtain ⟨generation, kind, device, attempt⟩ := timer
  dsimp only at hle hretry
  cases kind with
  | confirmation =>
    exact Nat.add_le_add_left (Nat.mul_le_mul_right _ (Nat.sub_le _ _)) _
  | retry =>
    have hspent : 1 ≤ attempt := hretry rfl
    have hrounds := Nat.mul_le_mul_right
      (timeouts.backoff.waitMillis + timeouts.confirmation.waitMillis)
      (show timeouts.retries - attempt + 1 ≤ timeouts.retries by omega)
    rw [Nat.succ_mul] at hrounds
    dsimp only [Timeouts.delay, PendingTimer.waitAhead, Timeouts.settling]
    omega

/-! ## An end in sight -/

/-- If nobody sends anything, no timer is outstanding any more at `time`. -/
def Service.EndsBy (service : Service) (time : Nat) : Prop :=
  ∀ timer, service.router.machine.pending = some timer → ∀ alarm ∈ service.alarms,
    alarm.due + timer.waitAhead service.router.machine.timeouts ≤ time

namespace Bench

variable {actions : List Action} {bench after : Bench} {alarm : Alarm} {limit time : Nat}

/-- At any time the end is as far away as a stack takes to settle. -/
theorem Resting.endsBy (h : bench.Resting timeouts actions) :
    bench.service.EndsBy (bench.service.now + timeouts.settling) := by
  intro timer hpending alarm hmem
  obtain ⟨arming, hlast, halarm⟩ := h.timed.alarmed.last alarm hmem
  have hrequest := h.timed.request_eq hpending hmem
  have hwait := @Budgeted.wait_le timeouts timer (hpending ▸ h.budgeted)
  have htime : arming.time ≤ bench.service.now := by
    rw [h.service_eq]
    exact Service.time_le_now (List.mem_of_getLast? hlast)
  have hdue : alarm.due = arming.time + (timeouts.delay timer.kind).waitMillis := by
    have hdelay : arming.request = timer.request timeouts := by rw [← hrequest, halarm]; rfl
    rw [halarm, Arming.alarm, hdelay]
    rfl
  rw [h.timeouts_eq]
  omega

theorem Resting.router_ringAlarm (h : bench.Resting timeouts actions)
    (halarm : bench.service.alarms = [alarm]) :
    (bench.ringAlarm alarm).service.router =
      (bench.service.router.process bench.stack.surroundings
        (.expired alarm.request.kind alarm.request.generation)).1 := by
  rw [h.ringAlarm_eq halarm]
  exact ((bench.rung alarm).service.handle_seen bench.stack.surroundings (.event _)).1

theorem Resting.due_ringAlarm (h : bench.Resting timeouts actions)
    (halarm : bench.service.alarms = [alarm]) {other : Alarm}
    (hmem : other ∈ (bench.ringAlarm alarm).service.alarms) :
    other.due = alarm.due + other.request.delay.waitMillis := by
  rw [h.ringAlarm_eq halarm] at hmem
  rcases due_of_mem_take hmem with hold | hdue
  · cases hold
  · exact hdue

/-- An alarm that rings does not put the end off. -/
theorem Resting.endsBy_ringAlarm (h : bench.Resting timeouts actions)
    (halarm : bench.service.alarms = [alarm]) (hends : bench.service.EndsBy limit) :
    (bench.ringAlarm alarm).service.EndsBy limit := by
  have hring := h.ringAlarm halarm
  have hmem : alarm ∈ bench.service.alarms := by simp [halarm]
  intro next hnext other hother
  have hrequest := hring.timed.request_eq hnext hother
  have hdue := h.due_ringAlarm halarm hother
  rw [hring.timeouts_eq]
  rw [h.router_ringAlarm halarm] at hnext
  cases hpending : bench.service.router.machine.pending with
  | none =>
    -- the machine does not wait for the alarm, nor for another
    have hstale : bench.service.router.machine.outstanding? alarm.request.kind
        alarm.request.generation = none := by rw [Machine.outstanding?, hpending]; rfl
    rw [Router.process_stale hstale, hpending] at hnext
    cases hnext
  | some timer =>
    have hwait := hends timer hpending alarm hmem
    have hsound := h.timed.accounted.sound
    obtain ⟨hplanned, hfailed⟩ :=
      Machine.process_planned hsound hpending bench.stack.surroundings
    rw [h.timed.request_eq hpending hmem] at hnext
    have hnext : (bench.service.router.machine.process bench.stack.surroundings
      (.expired timer.kind timer.generation)).machine.pending = some next := hnext
    rw [hnext, h.timeouts_eq] at hplanned
    have hless := hplanned.wait_le fun hkind => hfailed hkind next hnext
    rw [h.timeouts_eq] at hwait
    rw [hdue, hrequest]
    show _ + (timeouts.delay next.kind).waitMillis + _ ≤ _
    omega

theorem Rings.endsBy (hrings : Rings time bench after) (h : bench.Resting timeouts actions)
    (hends : bench.service.EndsBy limit) : after.service.EndsBy limit := by
  induction hrings generalizing actions with
  | rest => exact hends
  | ring halarm _ _ ih => exact ih (h.ringAlarm halarm) (h.endsBy_ringAlarm halarm hends)

theorem Resting.pending_of_endsBy (h : bench.Resting timeouts actions)
    (hends : bench.service.EndsBy limit) (hquiet : bench.service.QuietUntil time)
    (hlate : limit < time) : bench.service.router.machine.pending = none := by
  cases hpending : bench.service.router.machine.pending with
  | none => rfl
  | some timer =>
    rcases h.timed.kept h.running hpending with hne | hqueued
    · obtain ⟨alarm, hmem⟩ := List.exists_mem_of_ne_nil _ hne
      have hdue := hends timer hpending alarm hmem
      have hfuture := hquiet alarm hmem
      omega
    · rw [h.queue_eq] at hqueued
      cases hqueued

/-- A wait that is long enough leaves no timer outstanding. -/
theorem Resting.settles (h : bench.Resting timeouts actions) (hidle : bench.Idle) {ms : Nat}
    (hms : timeouts.settling < (Duration.ofMillis ms).waitMillis)
    (hafter : (bench.sleep ms).flush = .ok after) :
    after.service.router.machine.pending = none := by
  have hne : ms ≠ 0 := by
    rintro rfl
    simp at hms
  obtain ⟨middle, hrings, hsleep⟩ := h.sleep_rings hidle hne
  set wakes := bench.service.now + (Duration.ofMillis ms).waitMillis
  obtain ⟨_, _, hmiddle, -, -⟩ := hrings.span h
  have hslept := hmiddle.advance hrings.quiet
  have htake := hslept.take (show Message.flush ≠ .stop by simp)
  obtain ⟨flushed, hflush, hlast⟩ := hslept.flush_rings
  obtain ⟨_, _, hresting, -, -⟩ := hlast.span htake
  have hends : middle.service.EndsBy (bench.service.now + timeouts.settling) :=
    hrings.endsBy h h.endsBy
  have hwoken : wakes ≤ (middle.advance wakes).service.now := Nat.le_max_right _ _
  rw [hsleep, hflush] at hafter
  cases hafter
  exact hresting.pending_of_endsBy (hlast.endsBy htake hends) hlast.quiet (by omega)

end Bench

/-! ## Where a script ends -/

/-- If no route is entered from outside, the last transition ends on the route of the router. -/
theorem Router.last_target {inputs : List Input} (h : Unforced inputs) (router : Router) :
    ((router.transitions inputs).getLast?.map (·.target)).getD router.route =
      (router.run inputs).route := by
  induction inputs using List.reverseRecOn with
  | nil => rfl
  | append_singleton inputs input ih =>
    have ih := ih fun directory route hmem => h directory route (List.mem_append_left _ hmem)
    rw [transitions_append, run_append]
    cases input with
    | event world event =>
      obtain ⟨-, -, htarget⟩ := (router.run inputs).machine.process_record world event
      have hone : (router.run inputs).transitions [.event world event] =
        [((router.run inputs).machine.process world event).transition] := rfl
      rw [hone, List.getLast?_concat]
      exact htarget
    | force directory route =>
      exact absurd (List.mem_append_right _ List.mem_cons_self) (h directory route)
    | listen listener =>
      have hnone : (router.run inputs).transitions [.listen listener] = [] := rfl
      rw [hnone, List.append_nil]
      exact ih

/-- The last transition of a script ends on the route that is reached. -/
theorem Replay.Follows.last_target {script : Script} {steps : List Step} {actions : List Action}
    {replay : Replay} (h : replay.Follows timeouts script steps actions) :
    ((((Router.new timeouts).transitions
      ((Service.start (.new timeouts)).inputs actions)).getLast?.map (·.target)).getD
        script.initial) = replay.bench.service.router.route := by
  obtain ⟨opened, rest, hroute, hrest, htransitions, hrouter⟩ := h.since_opened
  rw [htransitions, hrouter, ← hroute]
  exact Router.last_target hrest opened

theorem Timeouts.settling_of (confirmation backoff asked : Nat) :
    let timeouts := Timeouts.of (.ofMillis confirmation) (.ofMillis backoff) asked
    timeouts.settling = (timeouts.retries + 1) * confirmation + timeouts.retries * backoff := by
  intro timeouts
  have hconfirmation : timeouts.confirmation.waitMillis = confirmation :=
    Duration.waitMillis_ofMillis confirmation
  have hbackoff : timeouts.backoff.waitMillis = backoff := Duration.waitMillis_ofMillis backoff
  rw [settling, hconfirmation, hbackoff, Nat.mul_add, Nat.succ_mul]
  omega

/-- A device that is connecting has been waited for no longer than a confirmation may take, if
    nothing is enqueued and no alarm is overdue. -/
theorem Service.Timed.armed_since {service : Service} {armings : List Arming} {device : Device}
    (h : service.Timed timeouts armings) (hrunning : service.running = true)
    (hqueue : service.queue = []) (hpunctual : service.QuietUntil service.now)
    (hroute : service.router.route = .connecting device) :
    ∃ timer arming, service.router.machine.pending = some timer ∧ timer.device = device ∧
      armings.getLast? = some arming ∧
      arming.request = ⟨.confirmation, timer.generation, timeouts.confirmation⟩ ∧
      service.now ≤ arming.time + timeouts.confirmation.waitMillis := by
  obtain ⟨timer, hpending, hkind, hdevice⟩ := (h.accounted.sound.connecting_iff device).1 hroute
  rcases h.kept hrunning hpending with hne | hqueued
  · obtain ⟨alarm, hmem⟩ := List.exists_mem_of_ne_nil _ hne
    obtain ⟨arming, hlast, halarm⟩ := h.alarmed.last alarm hmem
    have hrequest : arming.request = ⟨.confirmation, timer.generation, timeouts.confirmation⟩ := by
      have hsame := h.request_eq hpending hmem
      rw [halarm, PendingTimer.request, hkind] at hsame
      exact hsame
    have hdue := hpunctual alarm hmem
    rw [halarm, Arming.alarm, hrequest] at hdue
    exact ⟨timer, arming, hpending, hdevice, hlast, hrequest, hdue⟩
  · rw [hqueue] at hqueued
    cases hqueued

/-- **A stack that stays silent settles.**  A script whose first route is accepted, and that ends
    with a wait longer than `retries + 1` confirmations and `retries` backoffs, ends on a route
    that awaits nothing, and then no expiry has an effect any more; whatever was done before,
    expiries included that no timer was armed for.  And whenever a service has handled all that is
    enqueued and no alarm is overdue, a device that is connecting has been waited for no longer
    than a confirmation may take. -/
theorem Script.silence_settles (confirmation backoff asked : Nat) :
    let timeouts := Timeouts.of (.ofMillis confirmation) (.ofMillis backoff) asked
    let retries := timeouts.retries
    let settling := (retries + 1) * confirmation + retries * backoff
    (∀ (script : Script) (steps : List Step) (ms : Nat), script.steps = steps ++ [.wait ms] →
      (∀ device, script.initial.device? = some device → device ∈ script.connected) →
      settling < ms →
      ∃ replay transitions, script.replayed timeouts script.steps = .ok replay ∧
        script.run timeouts = .ok transitions ∧
        let router := replay.bench.service.router
        let final := (transitions.getLast?.map (·.target)).getD script.initial
        final = router.route ∧
        (∀ device, final ≠ .connecting device) ∧
        router.machine.pending = none ∧
        ∀ world kind generation, (router.process world (.expired kind generation)).1 = router) ∧
    ∀ (notifier : Notifier) (actions : List Action),
      let start := Service.start { machine := { timeouts }, notifier }
      let service := start.replay actions
      service.running = true → service.queue = [] →
      (∀ alarm ∈ service.alarms, service.now ≤ alarm.due) →
      ∀ device, service.router.route = .connecting device →
        ∃ timer arming, service.router.machine.pending = some timer ∧ timer.device = device ∧
          (start.armings actions).getLast? = some arming ∧
          arming.request = ⟨.confirmation, timer.generation, .ofMillis confirmation⟩ ∧
          arming.time ≤ service.now ∧ service.now ≤ arming.time + confirmation := by
  intro timeouts retries settling
  refine ⟨fun script steps ms hsteps hknown hms => ?_, fun notifier actions => ?_⟩
  · have hroom := Timeouts.room_of (.ofMillis confirmation) (.ofMillis backoff) asked
    have hcovers := script.covers_initial hknown
    have hsettling : timeouts.settling = settling :=
      Timeouts.settling_of confirmation backoff asked
    have hwait : timeouts.settling < (Duration.ofMillis ms).waitMillis := by
      rw [hsettling, Duration.waitMillis_ofMillis]
      exact hms
    obtain ⟨replay, actions, hreplayed, h⟩ := follows_replayed hcovers hroom steps
    obtain ⟨next, _, _, hperform, hplay, hnext, -⟩ := h.play hroom (.wait ms)
    have hpending := h.resting.settles h.idle hwait hperform
    have hlast : script.replayed timeouts script.steps = .ok next := by
      rw [hsteps, replayed_concat, hreplayed]; exact hplay
    rw [← hsteps] at hnext
    refine ⟨next, _, hlast, run_of_follows hlast hnext hroom, ?_⟩
    intro router final
    have hfinal : final = router.route := hnext.last_target
    have hsound : router.machine.Sound := hnext.resting.timed.accounted.sound
    refine ⟨hfinal, fun device hconnecting => ?_, hpending, fun world kind generation => ?_⟩
    · exact hsound.awaited (hfinal.symm.trans hconnecting) hpending
    · rw [Router.process_stale (by rw [Machine.outstanding?, hpending]; rfl)]
  · intro start service hrunning hqueue hpunctual device hroute
    have h : service.Timed timeouts (start.armings actions) :=
      Service.timed_replay (Service.timed_start timeouts notifier) actions
    obtain ⟨timer, arming, hpending, hdevice, hlast, hrequest, hsince⟩ :=
      h.armed_since hrunning hqueue hpunctual hroute
    have hconfirmation : timeouts.confirmation.waitMillis = confirmation :=
      Duration.waitMillis_ofMillis confirmation
    have htime : arming.time ≤ service.now :=
      Service.time_le_now (List.mem_of_getLast? hlast)
    exact ⟨timer, arming, hpending, hdevice, hlast, hrequest, htime, by omega⟩

/-- A device that does not confirm, refuses to be tried again, and is asked for although an expiry
    was sent that no timer was armed for; and one that is waited for. -/
theorem Script.silence_settles_refused :
    let timeouts := Timeouts.of (.ofMillis 5000) (.ofMillis 500) 1
    let script : Script := {
      connected := [⟨"A"⟩, ⟨"B"⟩]
      steps := [.send (.connect none), .send (.expired .confirmation 7), .setAccepts false,
        .wait 10501] }
    let world := (Stack.ofDevices [⟨"A"⟩]).surroundings
    let start := Service.start (.new timeouts)
    let actions : List Action := [.enqueue (.event (.connect none)), .handle world, .pass 5000]
    let service := start.replay actions
    (∃ replay transitions, script.run timeouts = .ok transitions ∧ transitions.length = 4 ∧
      (∀ device, (transitions.getLast?.map (·.target)).getD script.initial ≠ .connecting device) ∧
      script.replayed timeouts script.steps = .ok replay ∧
      replay.bench.service.router.machine.pending = none) ∧
    service.router.route = .connecting ⟨"A"⟩ ∧
    ∃ arming, (start.armings actions).getLast? = some arming ∧ arming.time ≤ service.now ∧
      service.now ≤ arming.time + 5000 := by
  intro timeouts script world start actions service
  have hlength : (script.run timeouts).toOption.map (·.length) = some 4 := by decide
  have hroute : service.router.route = .connecting ⟨"A"⟩ := by decide
  obtain ⟨hscript, hservice⟩ := silence_settles 5000 500 1
  obtain ⟨replay, transitions, hreplayed, hrun, -, hends, hpending, -⟩ :=
    hscript script [.send (.connect none), .send (.expired .confirmation 7), .setAccepts false]
      10501 rfl (fun device hdevice => by cases hdevice) (by decide)
  obtain ⟨_, arming, -, -, hlast, -, htime, hsince⟩ :=
    hservice {} actions (by decide) (by decide) (by decide) _ hroute
  refine ⟨⟨replay, transitions, hrun, ?_, hends, hreplayed, hpending⟩, hroute, arming, hlast,
    htime, hsince⟩
  rw [hrun] at hlength
  exact Option.some.inj hlength

end CallAudio
