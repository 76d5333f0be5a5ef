/-
  What is still ahead of a session.

  Every turn brings a session nearer to the point where nothing is left that happens by itself, and
  so does every alarm that the clock goes to.

  * `Service.Reached`: services that a history leads to;
  * `Service.ahead`: how many rounds the messages and the alarm of a service can still take;
    `Service.Reached.ahead_handleNext`, `Service.Reached.ahead_ring`: a message that is handled and
    an alarm that rings leave fewer of them;
  * `Session.Ready`: whoever has something to do is in line;
    `Session.Ready.turn`, `Session.Ready.turns`: turns keep it so and leave less ahead;
  * `Session.Resting`: sessions between two rounds; `Session.Ready.round`, `Session.Resting.pass`:
    rounds, and the time between them;
  * `Session.Ready.ahead_lt`: a wait allows for as many rounds as can be ahead.
-/
import Mathlib.Algebra.GroupWithZero.Nat
import Mathlib.Algebra.Order.BigOperators.Group.List
import Mathlib.Algebra.Order.Group.Nat
import CallAudio.Proofs.Rest
import CallAudio.Proofs.Turns

namespace CallAudio

/-! ## Services that a history leads to -/

/-- A service that a history leads to. -/
def Service.Reached (timeouts : Timeouts) (service : Service) : Prop :=
  ∃ actions, service = (Service.start (.new timeouts)).replay actions

namespace Service.Reached

variable {timeouts : Timeouts} {service : Service}

theorem replay (h : service.Reached timeouts) (more : List Action) :
    (service.replay more).Reached timeouts := by
  obtain ⟨actions, rfl⟩ := h
  exact ⟨actions ++ more, (replay_append ..).symm⟩

theorem timed (h : service.Reached timeouts) : ∃ armings, service.Timed timeouts armings := by
  obtain ⟨actions, rfl⟩ := h
  exact ⟨_, timed_replay (timed_start timeouts {}) actions⟩

theorem serial (h : service.Reached timeouts) :
    ∃ arrived handled, service.Serial (.new timeouts) arrived handled := by
  obtain ⟨actions, rfl⟩ := h
  exact ⟨_, _, serial_replay ⟨inOrder_start _, shows_start _⟩ actions⟩

theorem timeouts_eq (h : service.Reached timeouts) :
    service.router.machine.timeouts = timeouts := by
  obtain ⟨armings, htimed⟩ := h.timed
  exact htimed.accounted.timeouts_eq

theorem expiriesAhead_le (h : service.Reached timeouts) :
    service.router.machine.expiriesAhead ≤ 2 * timeouts.retries + 1 := by
  obtain ⟨actions, rfl⟩ := h
  have hrouter : ((start (.new timeouts)).replay actions).router = (Router.new timeouts).run _ :=
    router_replay (start (.new timeouts)) actions
  set inputs := (start (.new timeouts)).inputs actions
  have htimeouts : ((Router.new timeouts).run inputs).machine.timeouts = timeouts :=
    (Router.accounted_run timeouts inputs).timeouts_eq
  have hbudgeted : Budgeted ((Router.new timeouts).run inputs).machine.timeouts.retries
      ((Router.new timeouts).run inputs).machine.pending := by
    rw [htimeouts]; exact Router.budgeted_run timeouts inputs
  have hahead := (Machine.ahead_le hbudgeted).2
  rw [htimeouts] at hahead
  rw [hrouter]
  exact hahead

/-- There is at most one alarm. -/
theorem alarms_eq (h : service.Reached timeouts) : service.alarms = service.alarm.toList := by
  obtain ⟨armings, htimed⟩ := h.timed
  rcases htimed.alarmed.held with hnil | ⟨alarm, halarm, -⟩
  · simp [Service.alarm, hnil]
  · simp [Service.alarm, halarm]

/-- A service that has stopped has nothing to handle. -/
theorem queue_of_stopped (h : service.Reached timeouts) (hstopped : service.running = false) :
    service.queue = [] := by
  obtain ⟨arrived, handled, hserial⟩ := h.serial
  exact hserial.order.queue_eq hstopped

end Service.Reached

/-! ## How many rounds are ahead -/

/-- How many rounds a message can take, with the timers that it can lead to.  An expiry leads to
    none that was not ahead before. -/
def Message.ahead (retries : Nat) : Message → Nat
  | event e => if e.isTimer then 1 else 16 * (retries + 1)
  | force _ => 16 * (retries + 1)
  | flush | stop => 1

/-- How many rounds an alarm can take, its message left aside: some to wait for it, and some for it
    to ring. -/
def Alarm.ahead (now : Nat) (alarm : Alarm) : Nat := if now < alarm.due then 4 else 2

theorem Alarm.ahead_bounds (now : Nat) (alarm : Alarm) :
    2 ≤ alarm.ahead now ∧ alarm.ahead now ≤ 4 := by
  unfold ahead
  split <;> omega

theorem Alarm.elim_ahead_bounds (alarm? : Option Alarm) (now : Nat) :
    alarm?.toList.length ≤ 1 ∧ 2 * alarm?.toList.length ≤ alarm?.elim 0 (·.ahead now) ∧
      alarm?.elim 0 (·.ahead now) ≤ 4 * alarm?.toList.length := by
  cases alarm? with
  | none => exact ⟨Nat.zero_le 1, Nat.le_refl 0, Nat.le_refl 0⟩
  | some alarm => exact ⟨Nat.le_refl 1, alarm.ahead_bounds now⟩

theorem Message.one_le_ahead (retries : Nat) (message : Message) : 1 ≤ message.ahead retries := by
  unfold ahead
  split
  · split <;> omega
  all_goals omega

theorem Message.ahead_le (retries : Nat) (message : Message) :
    message.ahead retries ≤ 16 * (retries + 1) := by
  unfold ahead
  split
  · split <;> omega
  all_goals omega

/-- How many jobs line up when the alarm `before` gives way to `after`. -/
def Session.joining (before after : Option Alarm) : Nat :=
  if after = before then 0 else before.toList.length + after.toList.length

theorem Session.joining_le (before after : Option Alarm) :
    joining before after ≤ before.toList.length + after.toList.length := by
  unfold joining
  split
  · exact Nat.zero_le _
  · exact Nat.le_refl _

open Session (joining)

namespace Service

/-- How many rounds the messages in the queue can take. -/
def queueAhead (service : Service) : Nat :=
  (service.queue.map (·.ahead service.router.machine.timeouts.retries)).sum

/-- How many rounds the alarm can take. -/
def alarmAhead (service : Service) : Nat := service.alarm.elim 0 (·.ahead service.now)

/-- How many rounds it can take until nothing is left that a service does by itself.  For every
    timer that can still follow an alarm is set, waited for and rung, and its message handled. -/
def ahead (service : Service) : Nat :=
  service.queueAhead + 6 * service.router.machine.expiriesAhead + service.alarmAhead

variable {timeouts : Timeouts} {service after : Service}

/-- Another alarm takes no more than a few rounds more. -/
theorem alarmAhead_le (before after : Option Alarm) (now : Nat) :
    after.elim 0 (·.ahead now) + joining before after ≤ before.elim 0 (·.ahead now) + 5 := by
  have hjoining := Session.joining_le before after
  obtain ⟨hone, -, hafter⟩ := Alarm.elim_ahead_bounds after now
  obtain ⟨-, hbefore, -⟩ := Alarm.elim_ahead_bounds before now
  omega

section
variable {world : Surroundings} {message : Message} {rest : List Message}

theorem handleNext_of_cons (hqueue : service.queue = message :: rest) (world : Surroundings) :
    service.handleNext world = { service with queue := rest }.handle world message := by
  rw [handleNext, hqueue]

theorem Reached.handleNext (h : service.Reached timeouts) (world : Surroundings) :
    (service.handleNext world).1.Reached timeouts := h.replay [.handle world]

/-- A message that is handled is not ahead any more. -/
theorem Reached.queueAhead_handleNext (h : service.Reached timeouts)
    (hqueue : service.queue = message :: rest) (world : Surroundings) :
    message.ahead timeouts.retries + (service.handleNext world).1.queueAhead ≤
      service.queueAhead := by
  have hafter := (h.handleNext world).timeouts_eq
  rw [queueAhead, queueAhead, hafter, h.timeouts_eq, handleNext_of_cons hqueue, hqueue,
    List.map_cons, List.sum_cons]
  by_cases hstop : message = .stop
  · subst hstop
    exact Nat.add_le_add_left (Nat.zero_le _) _
  · rw [(handle_of_ne_stop { service with queue := rest } hstop world).1]

/-- An expiry of the outstanding timer uses up some of what is ahead, and any other changes
    nothing. -/
theorem handle_expiry (hsound : service.router.machine.Sound) {event : Event}
    (hexpiry : event.isTimer = true) (world : Surroundings) :
    let after := (service.handle world (.event event)).1
    after.router = service.router ∧ after.alarm = service.alarm ∨
      after.router.machine.expiriesAhead + 1 ≤ service.router.machine.expiriesAhead := by
  intro after
  set moment : Moment := ⟨service.router, .event world event⟩ with hmoment
  obtain ⟨_, _, _, heq⟩ := service.handle_eq
    (show Message.input? world (.event event) = some (.event world event) from rfl)
  have hrouter : after.router = moment.after := by
    rw [show after = _ from heq]
    exact router_obey _ _
  rcases moment.expiry_cases hexpiry with hstale | ⟨_, timer, hinput, hpending⟩
  · refine .inl ⟨hrouter.trans (Moment.after_of_isStale hstale), ?_⟩
    rw [show after = _ from heq]
    show (Service.obey _ moment.timer).alarms.head? = _
    rw [moment.timer_of_isStale hstale]
    rfl
  · have hspends := (Machine.process_spends hsound hpending world).expiries
    have hmachine : after.router.machine = (service.router.machine.process world
        (.expired timer.kind timer.generation)).machine := by
      rw [hrouter, hmoment, (Input.event.inj hinput).2]
      rfl
    rw [← hmachine] at hspends
    exact .inr (by omega)

/-- The timers that are ahead, and the alarm, after a message. -/
theorem Reached.timerAhead_handleNext (h : service.Reached timeouts)
    (hqueue : service.queue = message :: rest) (world : Surroundings) :
    let after := (service.handleNext world).1
    6 * after.router.machine.expiriesAhead + after.alarmAhead +
        joining service.alarm after.alarm + 1 ≤
      message.ahead timeouts.retries + 6 * service.router.machine.expiriesAhead +
        service.alarmAhead := by
  intro after
  have hafter : after = ({ service with queue := rest }.handle world message).1 :=
    congrArg Prod.fst (handleNext_of_cons hqueue world)
  have hnow : after.now = service.now := by rw [hafter]; exact now_handle _ world message
  have halarm : after.alarmAhead + joining service.alarm after.alarm ≤ service.alarmAhead + 5 := by
    rw [alarmAhead, alarmAhead, hnow]
    exact alarmAhead_le service.alarm after.alarm service.now
  have hexpiries : after.router.machine.expiriesAhead ≤ 2 * timeouts.retries + 1 :=
    (h.handleNext world).expiriesAhead_le
  have hunchanged (hrouter : after.router = service.router)
      (hsame : after.alarm = service.alarm) : 6 * after.router.machine.expiriesAhead +
        after.alarmAhead + joining service.alarm after.alarm + 1 ≤
          message.ahead timeouts.retries + 6 * service.router.machine.expiriesAhead +
            service.alarmAhead := by
    have hone := message.one_le_ahead timeouts.retries
    rw [hrouter, alarmAhead, alarmAhead, hsame, hnow, joining, if_pos rfl]
    omega
  obtain ⟨armings, htimed⟩ := h.timed
  cases message with
  | flush => exact hunchanged (by rw [hafter]; rfl) (by rw [hafter]; rfl)
  | force route =>
    have hcost : (Message.force route).ahead timeouts.retries = 16 * (timeouts.retries + 1) := rfl
    omega
  | stop =>
    have hdropped : after.router = service.router ∧ after.alarm = none := by
      have hkept : Alarmed { service with queue := rest } armings :=
        htimed.alarmed.congr rfl rfl rfl
      rw [hafter, handle, stop, hkept.dropAlarm_eq]
      exact ⟨rfl, rfl⟩
    have hcost : Message.stop.ahead timeouts.retries = 1 := rfl
    have hjoining : joining service.alarm none ≤ service.alarm.toList.length :=
      Session.joining_le service.alarm none
    obtain ⟨-, hbefore, -⟩ := Alarm.elim_ahead_bounds service.alarm service.now
    rw [hdropped.1, alarmAhead, alarmAhead, hdropped.2, Option.elim_none]
    omega
  | event event =>
    cases hexpiry : event.isTimer with
    | false =>
      have hcost : (Message.event event).ahead timeouts.retries = 16 * (timeouts.retries + 1) := by
        rw [Message.ahead, hexpiry]; rfl
      omega
    | true =>
      have hcost : (Message.event event).ahead timeouts.retries = 1 := by
        rw [Message.ahead, hexpiry]; rfl
      have hcases := handle_expiry
        (show ({ service with queue := rest } : Service).router.machine.Sound from
          htimed.accounted.sound) hexpiry world
      rw [← hafter] at hcases
      rcases hcases with ⟨hrouter, hsame⟩ | hspent
      · exact hunchanged hrouter hsame
      · have hspent : after.router.machine.expiriesAhead + 1 ≤
          service.router.machine.expiriesAhead := hspent
        omega

/-- A message that is handled takes some of the rounds that were ahead. -/
theorem Reached.ahead_handleNext (h : service.Reached timeouts)
    (hqueue : service.queue = message :: rest) (world : Surroundings) :
    let after := (service.handleNext world).1
    after.ahead + joining service.alarm after.alarm + 1 ≤ service.ahead := by
  have hmessages := h.queueAhead_handleNext hqueue world
  have htimer := h.timerAhead_handleNext hqueue world
  simp only [ahead] at htimer ⊢
  omega

theorem now_handleNext (service : Service) (world : Surroundings) :
    (service.handleNext world).1.now = service.now := by
  cases hqueue : service.queue with
  | nil => rw [Service.handleNext, hqueue]
  | cons message rest => rw [handleNext_of_cons hqueue]; exact now_handle _ world message

theorem length_queue_handleNext (service : Service) (world : Surroundings) :
    (service.handleNext world).1.queue.length ≤ service.queue.length - 1 := by
  cases hqueue : service.queue with
  | nil => rw [Service.handleNext, hqueue, hqueue]; rfl
  | cons message rest =>
    rw [handleNext_of_cons hqueue]
    by_cases hstop : message = .stop
    · subst hstop; exact Nat.zero_le _
    · rw [(handle_of_ne_stop { service with queue := rest } hstop world).1]
      exact Nat.le_refl _

end

/-- An alarm that is due rings, and none is left. -/
theorem Reached.ring_eq (h : service.Reached timeouts) {alarm : Alarm}
    (halarm : service.alarm = some alarm) (hdue : alarm.due ≤ service.now) :
    service.ring alarm.number = { service with
      alarms := []
      queue := if service.running then service.queue ++ [.event alarm.request.event]
        else service.queue } := by
  have halarms := h.alarms_eq
  rw [halarm] at halarms
  simp [ring, halarms, hdue, Alarm.without]

/-- An alarm that rings takes some of the rounds that were ahead. -/
theorem Reached.ahead_ring (h : service.Reached timeouts) {alarm : Alarm}
    (halarm : service.alarm = some alarm) (hdue : alarm.due ≤ service.now) :
    (service.ring alarm.number).ahead + 1 ≤ service.ahead := by
  have hcost : service.alarmAhead = 2 := by
    rw [alarmAhead, halarm]
    exact if_neg (Nat.not_lt.2 hdue)
  have hrung : (service.ring alarm.number).alarmAhead = 0 := by
    rw [h.ring_eq halarm hdue]; rfl
  have hqueue : (service.ring alarm.number).queueAhead ≤ service.queueAhead + 1 := by
    rw [h.ring_eq halarm hdue, queueAhead, queueAhead]
    dsimp only
    split
    · rw [List.map_append, List.sum_append]; exact Nat.le_refl _
    · exact Nat.le_succ _
  have hrouter : (service.ring alarm.number).router = service.router := by
    rw [h.ring_eq halarm hdue]
  rw [ahead, ahead, hrung, hrouter, hcost]
  omega

end Service

namespace Session

variable {timeouts : Timeouts} {session : Session} {job : Job}

/-- How many rounds it can take until nothing is left that happens by itself. -/
def ahead (session : Session) : Nat :=
  session.service.ahead + session.line.length + session.steppedBack.toNat

/-! ## Lining up -/

theorem callService_cases (session : Session) :
    session.callService = session ∧ (.service ∈ session.line ∨ session.steppedBack = true) ∨
      session.callService = { session with line := session.line ++ [.service] } := by
  unfold callService
  split
  · next h => exact .inl ⟨rfl, by simpa [or_comm] using h⟩
  · exact .inr rfl

theorem callAlarm_cases (session : Session) (alarm : Alarm) :
    session.callAlarm alarm = session ∧ .alarm alarm.request.generation ∈ session.line ∨
      session.callAlarm alarm =
        { session with line := session.line ++ [.alarm alarm.request.generation] } := by
  simp only [callAlarm]
  split
  · next h => exact .inl ⟨rfl, by simpa using h⟩
  · exact .inr rfl

/-- What lining up leaves: those who were in line are, and the line is not much longer. -/
structure Lined (before after : Session) (count : Nat) : Prop where
  /-- Nobody leaves the line. -/
  stay : ∀ job ∈ before.line, job ∈ after.line
  /-- No more than `count` line up. -/
  length : after.line.length ≤ before.line.length + count
  /-- The service does not step back. -/
  steppedBack : after.steppedBack = before.steppedBack

theorem lined_refl (session : Session) : Lined session session 0 :=
  ⟨fun _ => id, Nat.le_refl _, rfl⟩

theorem Lined.mono {after : Session} {count more : Nat} (h : Lined session after count)
    (hle : count ≤ more) : Lined session after more :=
  ⟨h.stay, h.length.trans (Nat.add_le_add_left hle _), h.steppedBack⟩

theorem Lined.trans {middle after : Session} {count more : Nat} (h : Lined session middle count)
    (hrest : Lined middle after more) : Lined session after (count + more) where
  stay job hmem := hrest.stay job (h.stay job hmem)
  length := by have := h.length; have := hrest.length; omega
  steppedBack := hrest.steppedBack.trans h.steppedBack

theorem lined_append (session : Session) (job : Job) :
    Lined session { session with line := session.line ++ [job] } 1 :=
  ⟨fun _ hmem => List.mem_append_left _ hmem, by simp, rfl⟩

theorem lined_callService (session : Session) : Lined session session.callService 1 := by
  rcases session.callService_cases with ⟨heq, -⟩ | heq
  · rw [heq]; exact session.lined_refl.mono (Nat.zero_le _)
  · rw [heq]; exact session.lined_append .service

theorem lined_callAlarm (session : Session) (alarm : Alarm) :
    Lined session (session.callAlarm alarm) 1 := by
  rcases session.callAlarm_cases alarm with ⟨heq, -⟩ | heq
  · rw [heq]; exact session.lined_refl.mono (Nat.zero_le _)
  · rw [heq]; exact session.lined_append (.alarm alarm.request.generation)

/-- Whoever calls the service finds it in line, or it has stepped back. -/
theorem service_mem_callService (session : Session) :
    .service ∈ session.callService.line ∨ session.callService.steppedBack = true := by
  rcases session.callService_cases with ⟨heq, hmem⟩ | heq
  · rw [heq]; exact hmem
  · exact .inl (by simp [heq])

theorem alarm_mem_callAlarm (session : Session) (alarm : Alarm) :
    .alarm alarm.request.generation ∈ (session.callAlarm alarm).line := by
  rcases session.callAlarm_cases alarm with ⟨heq, hmem⟩ | heq
  · rw [heq]; exact hmem
  · simp [heq]

/-- When an alarm gives way to another one, both line up. -/
theorem handleNext_cases (session : Session) :
    let handled := { session with bench := session.bench.handleNext }
    let before := session.service.alarm
    let after := session.bench.handleNext.service.alarm
    let dropped := before.elim handled handled.callAlarm
    session.handleNext = handled ∧ after = before ∨
      session.handleNext = after.elim dropped dropped.callAlarm ∧ after ≠ before := by
  intro handled before after dropped
  by_cases hsame : after = before
  · exact .inl ⟨if_pos hsame, hsame⟩
  · exact .inr ⟨if_neg hsame, hsame⟩

@[simp] theorem service_callService (session : Session) :
    session.callService.service = session.service :=
  congrArg Bench.service session.bench_callService

@[simp] theorem service_handleNext (session : Session) :
    session.handleNext.service = session.bench.handleNext.service :=
  congrArg Bench.service session.bench_handleNext

theorem lined_handleNext (session : Session) :
    Lined session session.handleNext
      (joining session.service.alarm session.handleNext.service.alarm) := by
  have hone (session : Session) (alarm? : Option Alarm) :
      Lined session (alarm?.elim session session.callAlarm) alarm?.toList.length := by
    cases alarm? with
    | none => exact session.lined_refl
    | some alarm => exact session.lined_callAlarm alarm
  rw [service_handleNext]
  rcases session.handleNext_cases with ⟨heq, hsame⟩ | ⟨heq, hother⟩
  · rw [heq]
    exact ⟨fun _ => id, Nat.le_add_right _ _, rfl⟩
  · rw [heq, joining, if_neg hother]
    obtain ⟨hstay, hlength, hback⟩ := (hone _ session.service.alarm).trans (hone _ _)
    exact ⟨hstay, hlength, hback⟩

/-- A new alarm is in line. -/
theorem alarm_mem_handleNext (session : Session) {alarm : Alarm}
    (halarm : session.handleNext.service.alarm = some alarm)
    (hnew : session.handleNext.service.alarm ≠ session.service.alarm) :
    .alarm alarm.request.generation ∈ session.handleNext.line := by
  rw [service_handleNext] at halarm hnew
  rcases session.handleNext_cases with ⟨-, hsame⟩ | ⟨heq, -⟩
  · exact absurd hsame hnew
  · rw [heq, halarm]
    exact alarm_mem_callAlarm _ alarm

/-! ## Turns -/

/-- A session in which the alarm has lined up, if it has to. -/
structure Prepared (timeouts : Timeouts) (session : Session) : Prop where
  /-- A history led to the service. -/
  reached : session.service.Reached timeouts
  /-- The alarm is in line if it is due. -/
  alarm_mem : ∀ {alarm}, session.service.alarm = some alarm →
    alarm.due ≤ session.service.now → .alarm alarm.request.generation ∈ session.line

/-- A session in which whoever has something to do is in line. -/
structure Ready (timeouts : Timeouts) (session : Session) : Prop extends
    Prepared timeouts session where
  /-- The service is in line, or will be after the round, if there is something to handle. -/
  service_mem : session.service.queue ≠ [] → .service ∈ session.line ∨ session.steppedBack = true

/-- Whoever gives the service something to handle calls it. -/
theorem Prepared.callService (h : session.Prepared timeouts) :
    session.callService.Ready timeouts := by
  refine ⟨⟨?_, fun halarm hdue => ?_⟩, fun _ => session.service_mem_callService⟩
  · rw [service_callService]; exact h.reached
  · rw [service_callService] at halarm hdue
    exact session.lined_callService.stay _ (h.alarm_mem halarm hdue)

theorem Prepared.handleNext (h : session.Prepared timeouts) :
    session.handleNext.Prepared timeouts where
  reached := by
    rw [service_handleNext]
    exact h.reached.handleNext session.bench.stack.surroundings
  alarm_mem halarm hdue := by
    by_cases hsame : session.handleNext.service.alarm = session.service.alarm
    · have hnow : session.handleNext.service.now = session.service.now := by
        rw [service_handleNext]
        exact session.service.now_handleNext session.bench.stack.surroundings
      exact session.lined_handleNext.stay _ (h.alarm_mem (hsame ▸ halarm) (hnow ▸ hdue))
    · exact session.alarm_mem_handleNext halarm hsame

/-- A message that is handled takes some of the rounds that were ahead. -/
theorem Prepared.ahead_handleNext (h : session.Prepared timeouts) :
    session.handleNext.ahead + min 1 session.service.queue.length ≤ session.ahead := by
  have hlined := session.lined_handleNext
  have hlength := hlined.length
  set world := session.bench.stack.surroundings
  have hservice : session.handleNext.service = (session.service.handleNext world).1 :=
    session.service_handleNext
  rw [hservice] at hlength
  rw [ahead, ahead, hservice, hlined.steppedBack]
  cases hqueue : session.service.queue with
  | nil =>
    have hsame : session.service.handleNext world = (session.service, []) := by
      rw [Service.handleNext, hqueue]
    rw [hsame] at hlength ⊢
    rw [joining, if_pos rfl] at hlength
    simp only [List.length_nil]
    omega
  | cons message rest =>
    have hahead := h.reached.ahead_handleNext hqueue world
    simp only [List.length_cons] at hahead ⊢
    omega

theorem Prepared.handleMany (h : session.Prepared timeouts) (count : Nat) :
    (session.handleMany count).Prepared timeouts := by
  induction count generalizing session with
  | zero => exact h
  | succ count ih => exact ih h.handleNext

theorem Prepared.ahead_handleMany (h : session.Prepared timeouts) (count : Nat) :
    (session.handleMany count).ahead + min 1 (min count session.service.queue.length) ≤
      session.ahead := by
  induction count generalizing session with
  | zero => rw [Nat.zero_min]; exact Nat.le_refl _
  | succ count ih =>
    have hfirst := h.ahead_handleNext
    have hrest := ih h.handleNext
    rw [Session.handleMany]
    omega

theorem length_queue_handleMany (count : Nat) (session : Session) :
    (session.handleMany count).service.queue.length ≤ session.service.queue.length - count := by
  induction count generalizing session with
  | zero => exact Nat.le_refl _
  | succ count ih =>
    have hfirst : session.handleNext.service.queue.length ≤ session.service.queue.length - 1 := by
      rw [service_handleNext]
      exact session.service.length_queue_handleNext session.bench.stack.surroundings
    have hrest := ih session.handleNext
    rw [handleMany]
    omega

theorem now_handleMany (count : Nat) (session : Session) :
    (session.handleMany count).service.now = session.service.now := by
  induction count generalizing session with
  | zero => rfl
  | succ count ih =>
    rw [handleMany, ih, service_handleNext]
    exact session.service.now_handleNext session.bench.stack.surroundings

/-- After its turn the service has nothing left to handle, or it has stepped back. -/
theorem Prepared.serviceTurn (h : session.Prepared timeouts) :
    session.serviceTurn.Ready timeouts := by
  set count := session.service.queue.length with hcount
  have hafter := h.handleMany (min turnSize count)
  refine ⟨⟨hafter.reached, hafter.alarm_mem⟩, fun hqueue => .inr ?_⟩
  have hlength := length_queue_handleMany (min turnSize count) session
  have hpos := List.length_pos_iff.2 hqueue
  have hpos : 0 < (session.handleMany (min turnSize count)).service.queue.length := hpos
  have hfull : turnSize ≤ count := by omega
  have hrunning : (session.handleMany (min turnSize count)).service.running = true := by
    by_contra hstopped
    exact hqueue (hafter.reached.queue_of_stopped (by simpa using hstopped))
  show (decide (turnSize ≤ count) && _) = true
  rw [decide_eq_true hfull, hrunning]
  rfl

theorem Prepared.ahead_serviceTurn (h : session.Prepared timeouts) :
    session.serviceTurn.ahead ≤ session.ahead := by
  set count := session.service.queue.length with hcount
  set after := session.handleMany (min turnSize count)
  have hhandled : after.ahead + min 1 (min (min turnSize count) count) ≤ session.ahead :=
    h.ahead_handleMany (min turnSize count)
  have hafter : after.ahead = after.service.ahead + after.line.length + after.steppedBack.toNat :=
    rfl
  have hturn : session.serviceTurn.ahead = after.service.ahead + after.line.length +
    (decide (turnSize ≤ count) && after.service.running).toNat := rfl
  by_cases hfull : turnSize ≤ count
  · have hsize : turnSize = 128 := rfl
    have hback := Bool.toNat_le (decide (turnSize ≤ count) && after.service.running)
    omega
  · rw [decide_eq_false hfull, Bool.false_and, Bool.toNat_false] at hturn
    omega

/-- In its turn an alarm that is due rings; otherwise nothing happens. -/
theorem alarmTurn_cases (session : Session) (generation : UInt64) :
    session.alarmTurn generation = session ∧ (∀ alarm, session.service.alarm = some alarm →
      alarm.request.generation = generation → session.service.now < alarm.due) ∨
    ∃ alarm rung, session.service.alarm = some alarm ∧ alarm.due ≤ session.service.now ∧
      session.alarmTurn generation = callService rung ∧
      rung.service = session.service.ring alarm.number ∧ rung.line = session.line ∧
      rung.steppedBack = session.steppedBack := by
  unfold alarmTurn
  cases halarm : session.service.alarm with
  | none => exact .inl ⟨rfl, nofun⟩
  | some alarm =>
    dsimp only
    split
    · next h =>
      refine .inr ⟨alarm, _, rfl, h.2, rfl, ?_, rfl, rfl⟩
      have halarm : session.bench.service.alarm = some alarm := halarm
      show session.bench.ring.service = _
      rw [Bench.ring, halarm]
      rfl
    · next h =>
      refine .inl ⟨rfl, fun other hother hgeneration => ?_⟩
      cases hother
      exact Nat.lt_of_not_le fun hdue => h ⟨hgeneration, hdue⟩

/-- What turns make of a session: it is at least `count` rounds nearer to its end. -/
structure Nearer (timeouts : Timeouts) (before after : Session) (count : Nat) : Prop where
  /-- Whoever has something to do is in line. -/
  ready : after.Ready timeouts
  /-- No time has passed. -/
  now_eq : after.service.now = before.service.now
  /-- There is less ahead. -/
  ahead_le : after.ahead + count ≤ before.ahead

theorem Nearer.trans {before middle after : Session} {count more : Nat}
    (h : Nearer timeouts before middle count) (hrest : Nearer timeouts middle after more) :
    Nearer timeouts before after (count + more) where
  ready := hrest.ready
  now_eq := hrest.now_eq.trans h.now_eq
  ahead_le := by have := h.ahead_le; have := hrest.ahead_le; omega

theorem ahead_of_cons {line : List Job} (hline : session.line = job :: line) :
    session.ahead = ahead { session with line := line } + 1 := by
  have hrest : ahead { session with line := line } =
    session.service.ahead + line.length + session.steppedBack.toNat := rfl
  rw [hrest, ahead, hline, List.length_cons]
  omega

theorem Ready.serviceTurn (h : session.Ready timeouts) {line : List Job}
    (hline : session.line = .service :: line) :
    Nearer timeouts session { session with line := line }.serviceTurn 1 := by
  have hrest : Prepared timeouts { session with line := line } := by
    refine ⟨h.reached, fun halarm hdue => ?_⟩
    have hmem := h.alarm_mem halarm hdue
    rw [hline] at hmem
    exact (List.mem_cons.1 hmem).resolve_left nofun
  have hcost := ahead_of_cons hline
  refine ⟨hrest.serviceTurn, ?_, hcost ▸ Nat.succ_le_succ hrest.ahead_serviceTurn⟩
  exact now_handleMany _ { session with line := line }

theorem Ready.alarmTurn (h : session.Ready timeouts) {generation : UInt64} {line : List Job}
    (hline : session.line = .alarm generation :: line) :
    Nearer timeouts session (alarmTurn { session with line := line } generation) 1 := by
  have hcost := ahead_of_cons hline
  rcases alarmTurn_cases { session with line := line } generation with
    ⟨heq, hearly⟩ | ⟨alarm, rung, halarm, hdue, heq, hservice, hrest, hback⟩
  · rw [heq]
    refine ⟨⟨⟨h.reached, fun {alarm} halarm hdue => ?_⟩, fun hqueue => ?_⟩, rfl, hcost.ge⟩
    · have hmem := h.alarm_mem halarm hdue
      rw [hline] at hmem
      refine (List.mem_cons.1 hmem).resolve_left fun hfirst => ?_
      exact Nat.not_lt.2 hdue (hearly alarm halarm (Job.alarm.inj hfirst))
    · have hmem := h.service_mem hqueue
      rw [hline] at hmem
      simpa using hmem
  · replace hservice : rung.service = session.service.ring alarm.number := hservice
    replace hrest : rung.line = line := hrest
    replace hback : rung.steppedBack = session.steppedBack := hback
    have hring := h.reached.ring_eq halarm hdue
    have hrung : rung.Prepared timeouts := by
      refine ⟨?_, fun hnone => ?_⟩
      · rw [hservice]; exact h.reached.replay [.ring alarm.number]
      · rw [hservice, hring] at hnone; cases hnone
    rw [heq]
    refine ⟨hrung.callService, ?_, ?_⟩
    · rw [service_callService, hservice, hring]
    · have hahead := h.reached.ahead_ring halarm hdue
      have hlined := rung.lined_callService
      have hlength := hlined.length
      have hline : session.line.length = rung.line.length + 1 := by
        rw [hline, hrest, List.length_cons]
      rw [ahead, ahead, service_callService, hservice, hlined.steppedBack, hback]
      omega

/-- Every turn leaves less ahead, if anybody is in line. -/
theorem Ready.turn (h : session.Ready timeouts) :
    Nearer timeouts session session.turn (min 1 session.line.length) := by
  unfold Session.turn
  split
  · next hline => exact ⟨h, rfl, by rw [hline]; exact Nat.le_refl _⟩
  · next line hline => rw [hline]; exact h.serviceTurn hline
  · next generation line hline => rw [hline]; exact h.alarmTurn hline

/-- So do several. -/
theorem Ready.turns (h : session.Ready timeouts) (count : Nat) :
    Nearer timeouts session (session.turns count) (min count (min 1 session.line.length)) := by
  induction count generalizing session with
  | zero => exact ⟨h, rfl, by rw [Nat.zero_min]; exact Nat.le_refl _⟩
  | succ count ih =>
    obtain ⟨hready, hnow, hle⟩ := h.turn.trans (ih h.turn.ready)
    exact ⟨hready, hnow, by rw [Session.turns]; omega⟩

/-! ## Rounds -/

/-- Between two rounds the service has not stepped back. -/
structure Resting (timeouts : Timeouts) (session : Session) : Prop extends
    Ready timeouts session where
  steppedBack_eq : session.steppedBack = false

/-- It is so for whoever has the same service and the same line. -/
theorem Resting.congr {other : Session} (h : session.Resting timeouts)
    (hservice : other.service = session.service) (hline : other.line = session.line)
    (hback : other.steppedBack = session.steppedBack) : other.Resting timeouts := by
  refine ⟨⟨⟨hservice ▸ h.reached, ?_⟩, ?_⟩, hback.trans h.steppedBack_eq⟩
  · rw [hservice, hline]; exact h.alarm_mem
  · rw [hservice, hline, hback]; exact h.service_mem

/-- If nobody is in line then, there is nothing to handle. -/
theorem Resting.queue_eq (h : session.Resting timeouts) (hline : session.line = []) :
    session.service.queue = [] := by
  by_contra hqueue
  have hmem := h.service_mem hqueue
  rw [hline, h.steppedBack_eq] at hmem
  simp at hmem

theorem Ready.round (h : session.Ready timeouts) :
    session.round.Resting timeouts ∧
      Nearer timeouts session session.round (min 1 session.line.length) := by
  have hturns := h.turns roundSize
  have hsize : min roundSize (min 1 session.line.length) = min 1 session.line.length := by
    have hsize : roundSize = 61 := rfl
    omega
  rw [hsize] at hturns
  simp only [Session.round]
  generalize session.turns roundSize = after at hturns
  split
  · next hback =>
    set eager : Session := { after with steppedBack := false }
    have hready : eager.callService.Ready timeouts :=
      Prepared.callService ⟨hturns.ready.reached, hturns.ready.alarm_mem⟩
    have hlined := eager.lined_callService
    refine ⟨⟨hready, hlined.steppedBack⟩, hready, ?_, ?_⟩
    · rw [service_callService]; exact hturns.now_eq
    · have hahead := hturns.ahead_le
      have hlength : eager.callService.line.length ≤ after.line.length + 1 := hlined.length
      have hservice : eager.service = after.service := rfl
      rw [ahead, hback, Bool.toNat_true] at hahead
      rw [ahead, service_callService, hservice, hlined.steppedBack, Bool.toNat_false]
      omega
  · next hback => exact ⟨⟨hturns.ready, by simpa using hback⟩, hturns⟩

theorem turns_of_nil (hline : session.line = []) (count : Nat) :
    session.turns count = session := by
  induction count with
  | zero => rfl
  | succ count ih =>
    have hturn : session.turn = session := by rw [turn, hline]
    rw [turns, hturn, ih]

/-- Nothing happens in a round if nobody is in line. -/
theorem Resting.round_of_nil (h : session.Resting timeouts) (hline : session.line = []) :
    session.round = session := by
  simp only [Session.round, turns_of_nil hline, h.steppedBack_eq]
  rfl

/-- If somebody is in line after a round, it leaves less ahead. -/
theorem Resting.ahead_round (h : session.Resting timeouts) (hline : session.round.line ≠ []) :
    session.round.ahead + 1 ≤ session.ahead := by
  have hbusy : session.line ≠ [] := fun hnil => hline (by rw [h.round_of_nil hnil, hnil])
  have hpos := List.length_pos_iff.2 hbusy
  have hle := h.round.2.ahead_le
  omega

/-! ## The time between rounds -/

@[simp] theorem service_pass (session : Session) (time : Nat) :
    (session.pass time).service = session.service.advance time := by
  unfold pass
  dsimp only
  split
  · split
    · exact congrArg Bench.service (bench_callAlarm _ _)
    · rfl
  · rfl

theorem lined_pass (session : Session) (time : Nat) : Lined session (session.pass time) 1 := by
  have hadvanced : Lined session { session with bench := session.bench.advance time } 0 :=
    ⟨fun _ => id, Nat.le_refl _, rfl⟩
  unfold pass
  dsimp only
  split
  · split
    · exact hadvanced.trans (lined_callAlarm _ _)
    · exact hadvanced.mono (Nat.zero_le 1)
  · exact hadvanced.mono (Nat.zero_le 1)

/-- An alarm lines up when it is due. -/
theorem alarm_mem_pass {alarm : Alarm} {time : Nat} (halarm : session.service.alarm = some alarm)
    (hdue : alarm.due ≤ time) : .alarm alarm.request.generation ∈ (session.pass time).line := by
  have halarm : (service { session with bench := session.bench.advance time }).alarm = some alarm :=
    halarm
  simp only [pass, halarm, if_pos hdue]
  exact alarm_mem_callAlarm _ alarm

theorem Resting.pass (h : session.Resting timeouts) (time : Nat) :
    (session.pass time).Resting timeouts := by
  have hlined := session.lined_pass time
  refine ⟨⟨⟨?_, fun {alarm} halarm hdue => ?_⟩, fun hqueue => ?_⟩,
    hlined.steppedBack.trans h.steppedBack_eq⟩
  · rw [service_pass]
    exact h.reached.replay [.pass time]
  · rw [service_pass] at halarm hdue
    by_cases hlate : alarm.due ≤ session.service.now
    · exact hlined.stay _ (h.alarm_mem halarm hlate)
    · have hdue : alarm.due ≤ max session.service.now time := hdue
      exact alarm_mem_pass halarm (by omega)
  · rw [service_pass] at hqueue
    exact (h.service_mem hqueue).imp (hlined.stay _) hlined.steppedBack.trans

/-- If the clock goes to the next alarm there is less ahead. -/
theorem Resting.ahead_pass (h : session.Resting timeouts) (hline : session.line = [])
    {alarm : Alarm} (halarm : session.service.alarm = some alarm) :
    (session.pass alarm.due).ahead + 1 ≤ session.ahead := by
  have hearly : session.service.now < alarm.due := by
    by_contra hdue
    have hmem := h.alarm_mem halarm (Nat.not_lt.1 hdue)
    rw [hline] at hmem
    cases hmem
  have hbefore : session.service.alarmAhead = 4 := by
    rw [Service.alarmAhead, halarm]
    exact if_pos hearly
  have hafter : (session.service.advance alarm.due).alarmAhead = 2 := by
    have halarm : (session.service.advance alarm.due).alarm = some alarm := halarm
    rw [Service.alarmAhead, halarm]
    exact if_neg (Nat.not_lt.2 (Nat.le_max_right _ _))
  have hservice : (session.service.advance alarm.due).ahead + 2 = session.service.ahead := by
    rw [Service.ahead, Service.ahead, hbefore, hafter]
    rfl
  have hlined := session.lined_pass alarm.due
  have hlength := hlined.length
  rw [ahead, ahead, service_pass, hlined.steppedBack]
  omega

/-- A wait allows for more rounds than can be ahead. -/
theorem Ready.ahead_lt (h : session.Ready timeouts) : session.ahead < session.roundsAhead := by
  set cost := 16 * (timeouts.retries + 1) with hcost
  set messages := session.service.queue.length with hmessages
  have hexpiries := h.reached.expiriesAhead_le
  have halarm : session.service.alarmAhead ≤ 4 := by
    obtain ⟨hone, -, hle⟩ := Alarm.elim_ahead_bounds session.service.alarm session.service.now
    exact hle.trans (Nat.mul_le_mul_left 4 hone)
  have hqueue : session.service.queueAhead ≤ messages * cost := by
    rw [Service.queueAhead, hmessages, h.reached.timeouts_eq]
    simpa using List.sum_le_card_nsmul
      (session.service.queue.map (·.ahead timeouts.retries)) cost
      (by simpa using fun message _ => message.ahead_le timeouts.retries)
  have hline : session.line.length ≤ session.line.length * cost :=
    Nat.le_mul_of_pos_right _ (by omega)
  have hback := Bool.toNat_le session.steppedBack
  have htotal : session.roundsAhead = messages * cost + session.line.length * cost + 2 * cost := by
    rw [roundsAhead, h.reached.timeouts_eq, Nat.mul_right_comm, Nat.mul_comm, Nat.add_mul,
      Nat.add_mul]
  rw [ahead, Service.ahead, htotal]
  omega

end Session

end CallAudio
