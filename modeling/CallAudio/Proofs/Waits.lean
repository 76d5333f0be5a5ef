/-
  Nobody waits in vain.

  A wait goes through no more rounds than a bound allows.  That is enough: what a caller waits for
  happens, and while a caller waits for an answer no time passes.

  * `Service.Going`: services that nobody has asked to stop; `Service.Going.act`: those who wait
    are told;
  * `Session.Resting.done_rounds`, `Session.Resting.now_rounds`: the rounds of a wait are enough;
  * `Session.Attended`, `Session.Attended.attend`: how an errand leaves a session;
  * `Session.attendAll_returns`: how all that a caller does leaves it.
-/
import CallAudio.Proofs.Ahead

namespace CallAudio

/-! ## Those who wait -/

namespace Service

/-- How many wait for an answer. -/
def waiting (service : Service) : Nat := service.queue.countP (·.isAwaited)

/-- A service that nobody has asked to stop. -/
structure Going (service : Service) : Prop where
  /-- It runs. -/
  running : service.running = true
  /-- It will not be told to stop by what is in the queue. -/
  stop_notMem : .stop ∉ service.queue

variable {service : Service} {action : Action}

/-- If nobody sends anything, there are only events that arrive. -/
theorem isEvent_of_arrival {message : Message} (hsent : action.sent? = none)
    (h : service.arrival? action = some message) : ∃ event, message = .event event := by
  cases action with
  | enqueue message => cases hsent
  | handle world => cases h
  | pass time => cases h
  | ring number =>
    rw [arrival?] at h
    split at h
    · obtain ⟨alarm, -, rfl⟩ := Option.map_eq_some_iff.1 h
      exact ⟨_, rfl⟩
    · cases h

/-- Whoever waits is told, and until then waits on. -/
theorem Going.act (h : service.Going) (hsent : action.sent? = none) :
    (service.act action).Going ∧
      (service.act action).replies.length + (service.act action).waiting =
        service.replies.length + service.waiting ∧
      (service.act action).waiting ≤ service.waiting := by
  rcases service.act_cases action with
    ⟨world, message, rest, hqueue, -, -, heq⟩ | ⟨-, alarms, now, heq⟩
  · have hstop : message ≠ .stop := by
      rintro rfl
      exact h.stop_notMem (hqueue ▸ List.mem_cons_self)
    obtain ⟨hrest, hrunning⟩ := handle_of_ne_stop { service with queue := rest } hstop world
    obtain ⟨-, -, -, hreplies⟩ := handle_seen { service with queue := rest } world message
    rw [heq]
    refine ⟨⟨hrunning.trans h.running, fun hmem => ?_⟩, ?_⟩
    · rw [hrest] at hmem
      exact h.stop_notMem (hqueue ▸ List.mem_cons_of_mem message hmem)
    · have htold : (Handling.answer? ⟨message, world⟩ service.router).toList.length =
          if message.isAwaited then 1 else 0 := by
        rw [← Handling.isSome_answer? ⟨message, world⟩ service.router]
        cases Handling.answer? ⟨message, world⟩ service.router <;> rfl
      rw [waiting, waiting, hreplies, hrest, hqueue, List.countP_cons, List.length_append, htold]
      dsimp only
      omega
  · have hevent : ∀ message ∈ (service.arrival? action).toList, ∃ event, message = .event event :=
      fun message hmem => isEvent_of_arrival hsent (by simpa using hmem)
    have hnobody : (service.arrival? action).toList.countP (·.isAwaited) = 0 := by
      rw [List.countP_eq_zero]
      intro message hmem
      obtain ⟨event, rfl⟩ := hevent message hmem
      exact Bool.false_ne_true
    rw [heq]
    refine ⟨⟨h.running, fun hmem => ?_⟩, ?_⟩
    · rcases List.mem_append.1 hmem with hmem | hmem
      · exact h.stop_notMem hmem
      · obtain ⟨event, hevent⟩ := hevent .stop hmem
        cases hevent
    · rw [waiting, waiting, List.countP_append, hnobody]
      exact ⟨rfl, le_rfl⟩

theorem Going.drifts {bench after : Bench} (h : bench.service.Going)
    (hdrifts : bench.Drifts after) :
    after.service.Going ∧
      after.service.replies.length + after.service.waiting =
        bench.service.replies.length + bench.service.waiting ∧
      after.service.waiting ≤ bench.service.waiting :=
  hdrifts.induction
    (P := fun after => after.Going ∧ after.replies.length + after.waiting =
      bench.service.replies.length + bench.service.waiting ∧ after.waiting ≤ bench.service.waiting)
    (fun _ _ hsent hbefore =>
      have ⟨hgoing, htold, hwaiting⟩ := hbefore.1.act hsent
      ⟨hgoing, htold.trans hbefore.2.1, hwaiting.trans hbefore.2.2⟩)
    ⟨h, rfl, le_rfl⟩

/-- Until the service stops, the message to stop is in the queue. -/
theorem stop_mem_act (h : service.running = true → .stop ∈ service.queue)
    (hrunning : (service.act action).running = true) : .stop ∈ (service.act action).queue := by
  have hmem := h (service.running_of_act hrunning)
  rcases service.act_cases action with
    ⟨world, message, rest, hqueue, -, -, heq⟩ | ⟨-, alarms, now, heq⟩
  · have hstop : message ≠ .stop := by
      rintro rfl
      rw [heq] at hrunning
      cases hrunning
    rw [hqueue] at hmem
    rw [heq, (handle_of_ne_stop { service with queue := rest } hstop world).1]
    exact (List.mem_cons.1 hmem).resolve_left hstop.symm
  · rw [heq]
    exact List.mem_append_left _ hmem

end Service

namespace Session

variable {timeouts : Timeouts} {session : Session} {done : Service → Bool} {count : Nat}

/-! ## Rounds of a wait -/

theorem Resting.rounds (h : session.Resting timeouts) (deadline : Option Nat)
    (done : Service → Bool) (count : Nat) :
    (session.rounds deadline done count).Resting timeouts :=
  rounds_induction (fun _ h => h.round.1) (fun _ time h _ _ _ => h.pass time) h count

/-- In a wait for something that has happened when nobody is in line, it happens, and no time passes
    meanwhile. -/
theorem Resting.done_rounds (h : session.Resting timeouts) (hcount : session.ahead < count)
    (hidle : ∀ after : Session, session.bench.Drifts after.bench → after.Resting timeouts →
      after.line = [] → done after.service = true) :
    done (session.rounds none done count).service = true ∧
      (session.rounds none done count).service.now = session.service.now := by
  induction count generalizing session with
  | zero => exact absurd hcount (Nat.not_lt_zero _)
  | succ count ih =>
    obtain ⟨hround, hnearer⟩ := h.round
    simp only [Session.rounds]
    split
    · next hdone => exact ⟨hdone, hnearer.now_eq⟩
    · next hwaiting =>
      have hline : session.round.line ≠ [] := fun hline =>
        hwaiting (hidle session.round session.drifts_round hround hline)
      have hless := h.ahead_round hline
      rw [if_pos (by simpa using hline)]
      obtain ⟨hdone, hnow⟩ := ih hround (by omega) fun after hdrifts =>
        hidle after (session.drifts_round.trans hdrifts)
      exact ⟨hdone, hnow.trans hnearer.now_eq⟩

/-- The clock goes to the end of the wait, or to an alarm before it. -/
theorem nextInstant?_cases (session : Session) (time : Nat) :
    session.nextInstant? (some time) = some time ∨
      ∃ alarm, session.service.alarm = some alarm ∧ alarm.due < time ∧
        session.nextInstant? (some time) = some alarm.due := by
  unfold nextInstant?
  cases session.service.alarm with
  | none => exact .inl rfl
  | some alarm =>
    rcases Nat.lt_or_ge alarm.due time with hdue | hdue
    · exact .inr ⟨alarm, rfl, hdue, congrArg some (Nat.min_eq_left hdue.le)⟩
    · exact .inl (congrArg some (Nat.min_eq_right hdue))

/-- A wait for an instant ends at that instant. -/
theorem Resting.now_rounds (h : session.Resting timeouts) (hcount : session.ahead < count)
    {time : Nat} (hnow : session.service.now ≤ time) :
    (session.rounds (some time) (fun service => time ≤ service.now) count).service.now = time := by
  induction count generalizing session with
  | zero => exact absurd hcount (Nat.not_lt_zero _)
  | succ count ih =>
    obtain ⟨hround, hnearer⟩ := h.round
    have hnext : session.round.service.now ≤ time := hnearer.now_eq ▸ hnow
    have hle := hnearer.ahead_le
    have hpassed (instant : Nat) : (session.round.pass instant).service.now =
        max session.round.service.now instant := by
      rw [service_pass]; rfl
    simp only [Session.rounds, decide_eq_true_eq]
    split
    · next hdone => exact hnext.antisymm hdone
    · next hearly =>
      split
      · next hline =>
        have hless := h.ahead_round (by simpa using hline)
        exact ih hround (by omega) hnext
      · next hline =>
        have hline : session.round.line = [] := by simpa using hline
        rcases session.round.nextInstant?_cases time with hinstant | ⟨alarm, halarm, hdue, hinstant⟩
        · rw [hinstant, Option.elim_some, if_pos (by rw [hpassed]; omega), hpassed]
          exact Nat.max_eq_right hnext
        · have hless := hround.ahead_pass hline halarm
          rw [hinstant, Option.elim_some, if_neg (by rw [hpassed]; omega)]
          exact ih (hround.pass alarm.due) (by omega) (by rw [hpassed]; omega)

theorem Resting.wait (h : session.Resting timeouts) (deadline : Option Nat)
    (done : Service → Bool) : (session.wait deadline done).Resting timeouts :=
  (h.rounds deadline done session.roundsAhead).congr rfl rfl rfl

theorem Resting.done_wait (h : session.Resting timeouts) (done : Service → Bool)
    (hidle : ∀ after : Session, session.bench.Drifts after.bench → after.Resting timeouts →
      after.line = [] → done after.service = true) :
    done (session.wait none done).service = true ∧
      (session.wait none done).service.now = session.service.now :=
  h.done_rounds h.ahead_lt hidle

theorem Resting.now_wait (h : session.Resting timeouts) {time : Nat}
    (hnow : session.service.now ≤ time) :
    (session.wait (some time) fun service => time ≤ service.now).service.now = time :=
  h.now_rounds h.ahead_lt hnow

/-! ## Errands -/

/-- While the service runs it gets every message. -/
theorem Resting.enqueue (h : session.Resting timeouts) (hrunning : session.service.running = true)
    (message : Message) : ∃ sent, session.enqueue message = .ok sent ∧ sent.Resting timeouts ∧
      sent.service = { session.service with queue := session.service.queue ++ [message] } := by
  set queued : Session := { session with bench := { session.bench with service :=
    { session.service with queue := session.service.queue ++ [message] } } }
  have henqueue : session.service.enqueue message = .ok queued.service := by
    rw [Service.enqueue, if_pos hrunning]
    rfl
  have hreached : queued.service.Reached timeouts := by
    have hact : queued.service = session.service.replay [.enqueue message] := by
      simp only [Service.replay, List.foldl, Service.act, henqueue]
    exact hact ▸ h.reached.replay [.enqueue message]
  have hready : queued.callService.Ready timeouts := Prepared.callService ⟨hreached, h.alarm_mem⟩
  have hback := queued.lined_callService.steppedBack.trans h.steppedBack_eq
  refine ⟨queued.callService, ?_, ⟨hready, hback⟩, queued.service_callService⟩
  unfold Session.enqueue Bench.enqueue
  rw [show session.bench.service.enqueue message = .ok queued.service from henqueue]
  rfl

/-- A session between two calls, as long as nobody stops the service. -/
structure Attended (timeouts : Timeouts) (told waiting now : Nat) (session : Session) : Prop where
  /-- Whoever has something to do is in line. -/
  resting : session.Resting timeouts
  /-- Nobody has asked the service to stop. -/
  going : session.service.Going
  /-- So many were told what they asked for. -/
  told_eq : session.service.replies.length = told
  /-- So many still wait for it. -/
  waiting_eq : session.service.waiting = waiting
  /-- It is so late. -/
  now_eq : session.service.now = now

variable {told waiting now : Nat}

theorem Attended.enqueue (h : session.Attended timeouts told waiting now) (message : Message)
    (hstop : message ≠ .stop) : ∃ sent, session.enqueue message = .ok sent ∧
      sent.Attended timeouts told (waiting + [message].countP (·.isAwaited)) now := by
  obtain ⟨sent, hsent, hresting, hservice⟩ := h.resting.enqueue h.going.running message
  refine ⟨sent, hsent, hresting, ?_, ?_, ?_, ?_⟩
  all_goals rw [hservice]
  · exact ⟨h.going.running, by simpa [h.going.stop_notMem] using hstop.symm⟩
  · exact h.told_eq
  · rw [← h.waiting_eq, Service.waiting, Service.waiting, List.countP_append]
  · exact h.now_eq

theorem Attended.drifts (h : session.Attended timeouts told waiting now) {after : Session}
    (hdrifts : session.bench.Drifts after.bench) :
    after.service.Going ∧ after.service.replies.length + after.service.waiting = told + waiting ∧
      after.service.waiting ≤ waiting := by
  rw [← h.told_eq, ← h.waiting_eq]
  exact h.going.drifts hdrifts

/-- Whoever waits for an answer gets it at once. -/
theorem Attended.awaitReply (h : session.Attended timeouts told 1 now) :
    session.awaitReply.Attended timeouts (told + 1) 0 now := by
  set answered : Service → Bool := fun service =>
    session.service.replies.length < service.replies.length
  have hwait : session.awaitReply = session.wait none answered := rfl
  have hidle : ∀ after : Session, session.bench.Drifts after.bench → after.Resting timeouts →
      after.line = [] → answered after.service = true := fun after hdrifts hafter hline => by
    obtain ⟨-, hall, -⟩ := h.drifts hdrifts
    have hnobody : after.service.waiting = 0 := by
      rw [Service.waiting, hafter.queue_eq hline]; rfl
    have htold := h.told_eq
    exact decide_eq_true (by omega)
  obtain ⟨hdone, hnow⟩ := h.resting.done_wait answered hidle
  obtain ⟨hgoing, hall, -⟩ := h.drifts (session.drifts_wait none answered)
  have hresting := h.resting.wait none answered
  rw [hwait]
  generalize session.wait none answered = after at *
  have hdone : session.service.replies.length < after.service.replies.length :=
    of_decide_eq_true hdone
  rw [h.told_eq] at hdone
  exact ⟨hresting, hgoing, by omega, by omega, hnow.trans h.now_eq⟩

theorem Attended.sleep (h : session.Attended timeouts told 0 now) (ms : Nat) :
    (session.sleep ms).Attended timeouts told 0 (now + ms) := by
  have hawake : (session.sleep ms).Resting timeouts ∧
      (session.sleep ms).service.now = session.service.now + ms := by
    unfold Session.sleep
    split
    · next hnone =>
      subst hnone
      split
      · exact ⟨h.resting.wait none _, (h.resting.done_wait _ fun _ _ _ _ => rfl).2⟩
      · exact ⟨h.resting.congr rfl rfl rfl, rfl⟩
    · rw [Duration.waitMillis_ofMillis]
      exact ⟨h.resting.wait _ _, h.resting.now_wait (Nat.le_add_right _ _)⟩
  obtain ⟨hgoing, hall, hnobody⟩ := h.drifts (session.drifts_sleep ms)
  exact ⟨hawake.1, hgoing, by omega, by omega, by rw [hawake.2, h.now_eq]⟩

/-- A service that is asked to stop does. -/
theorem Attended.shutdown (h : session.Attended timeouts told 0 now) :
    session.shutdown.service.running = false := by
  obtain ⟨sent, hsent, hresting, hservice⟩ := h.resting.enqueue h.going.running .stop
  have hstop : sent.service.running = true → .stop ∈ sent.service.queue := fun _ => by
    rw [hservice]; exact List.mem_append_right _ (List.mem_singleton.2 rfl)
  obtain ⟨hdone, -⟩ := hresting.done_wait (!·.running)
    fun after hdrifts hafter hline => by
      have hmem : after.service.running = true → .stop ∈ after.service.queue :=
        hdrifts.induction
          (P := fun service => service.running = true → Message.stop ∈ service.queue)
          (fun _ _ _ => Service.stop_mem_act) hstop
      rw [hafter.queue_eq hline] at hmem
      simpa using hmem
  rw [Bool.not_eq_true'] at hdone
  rw [Session.shutdown, hsent]
  exact hdone

/-- How long a caller is away on an errand. -/
def Errand.pause : Errand → Nat
  | sleep ms => ms
  | send _ | flush | force _ | shutdown | arrange _ => 0

/-- Whatever a caller asks for an answer is answered before anything else is done. -/
theorem Attended.attend (h : session.Attended timeouts told 0 now) {errand : Errand}
    (hgoes : errand ≠ .shutdown) :
    (session.attend errand).Attended timeouts
      (told + errand.message?.toList.countP (·.isAwaited)) 0 (now + errand.pause) := by
  cases errand with
  | send event =>
    obtain ⟨sent, hsent, hattended⟩ := h.enqueue (.event event) (by simp)
    simp only [Session.attend, send, hsent]
    exact hattended
  | flush =>
    obtain ⟨sent, hsent, hattended⟩ := h.enqueue .flush (by simp)
    simp only [Session.attend, Session.flush, hsent]
    exact hattended.awaitReply
  | force route =>
    obtain ⟨sent, hsent, hattended⟩ := h.enqueue (.force route) (by simp)
    simp only [Session.attend, Session.force, hsent]
    split <;> exact hattended.awaitReply
  | sleep ms => exact h.sleep ms
  | shutdown => exact absurd rfl hgoes
  | arrange change =>
    exact ⟨h.resting.congr rfl rfl rfl, h.going, h.told_eq, h.waiting_eq, h.now_eq⟩

theorem Attended.attendAll {errands : List Errand} (h : session.Attended timeouts told 0 now)
    (hgoes : .shutdown ∉ errands) :
    (session.attendAll errands).Attended timeouts
      (told + (errands.filterMap (·.message?)).countP (·.isAwaited)) 0
      (now + (errands.map (·.pause)).sum) := by
  induction errands generalizing session told now with
  | nil => exact h
  | cons errand errands ih =>
    obtain ⟨hfirst, hrest⟩ := not_or.1 (mt List.mem_cons.2 hgoes)
    have hattended := ih (h.attend (Ne.symm hfirst)) hrest
    have hmessages : (errand :: errands).filterMap (·.message?) =
        errand.message?.toList ++ errands.filterMap (·.message?) := by
      rw [List.filterMap_cons]
      cases errand.message? <;> rfl
    rw [hmessages, List.countP_append, List.map_cons, List.sum_cons, ← Nat.add_assoc,
      ← Nat.add_assoc]
    exact hattended

/-- A service that has stopped stays so, whatever its caller does. -/
theorem stopped_attendAll (h : session.service.running = false) (errands : List Errand) :
    (session.attendAll errands).service.running = false := by
  obtain ⟨actions, hservice, -⟩ := session.attendAll_history errands
  by_contra hrunning
  rw [hservice, Bool.not_eq_false] at hrunning
  rw [Service.running_of_replay hrunning] at h
  cases h

theorem Attended.stopped {errands : List Errand} (h : session.Attended timeouts told 0 now)
    (hmem : .shutdown ∈ errands) : (session.attendAll errands).service.running = false := by
  induction errands generalizing session told now with
  | nil => cases hmem
  | cons errand errands ih =>
    by_cases hfirst : errand = .shutdown
    · subst hfirst
      exact stopped_attendAll h.shutdown errands
    · exact ih (h.attend hfirst) ((List.mem_cons.1 hmem).resolve_left (Ne.symm hfirst))

theorem attended_start (timeouts : Timeouts) (devices : List Device) :
    (start timeouts devices).Attended timeouts 0 0 0 :=
  ⟨⟨⟨⟨⟨[], rfl⟩, nofun⟩, (absurd rfl ·)⟩, rfl⟩, ⟨rfl, nofun⟩, rfl, rfl, rfl⟩

/-- **Nobody waits in vain.**  Whatever a caller does, as long as it does not stop the service every
    call returns: whoever asked for an answer was told, nobody waits any more, and it is as late as
    the caller's own waits make it; and the service has stopped once the caller stopped it, and not
    before. -/
theorem attendAll_returns (timeouts : Timeouts) (devices : List Device) (errands : List Errand) :
    let service := ((start timeouts devices).attendAll errands).service
    (service.running = true ↔ .shutdown ∉ errands) ∧
    (.shutdown ∉ errands →
      service.replies.length = (errands.filterMap (·.message?)).countP (·.isAwaited) ∧
      service.waiting = 0 ∧
      service.now = (errands.map (·.pause)).sum) := by
  have hstart := attended_start timeouts devices
  refine ⟨⟨fun hrunning hmem => ?_, fun hgoes => (hstart.attendAll hgoes).going.running⟩,
    fun hgoes => ?_⟩
  · rw [hstart.stopped hmem] at hrunning
    cases hrunning
  · have hattended := hstart.attendAll hgoes
    exact ⟨by simpa using hattended.told_eq, hattended.waiting_eq, by simpa using hattended.now_eq⟩

end Session

end CallAudio
