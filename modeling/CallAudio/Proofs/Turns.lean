/-
  What a session does to its service.

  Turns and rounds settle who goes when.  Whatever comes of that, all that happens to the service
  is that messages get into its queue and are handled, that time passes, and that due alarms ring.
  So what holds after every history holds after whatever a caller of a session does.

  * `Bench.Course`: what became of a bench, and which actions of its service that took;
    `Bench.Drifts`: what becomes of it if nobody sends anything;
  * `Session.drifts_turn`, `Session.drifts_round`, `Session.drifts_wait`: turns, rounds and waits;
    `Session.rounds_induction`: what holds after the rounds of a wait;
  * `Session.Errand`, `Session.attend`: what a caller can do; `Session.course_attend`: which
    actions that takes;
  * `Session.attendAll_history`: the history that a session takes its service through;
    `Session.attendAll_start`: what follows from it.
-/
import CallAudio.Proofs.Cause

namespace CallAudio

/-- The message that an action is meant to enqueue. -/
def Action.sent? : Action → Option Message
  | enqueue message => some message
  | handle _ | pass _ | ring _ => none

/-! ## Benches -/

namespace Bench

variable {bench middle after : Bench} {messages others : List Message}
  {actions more : List Action} {message : Message}

/-- What became of `bench` while its service went through `actions`, by which callers meant to
    enqueue `messages`. -/
structure Course (bench : Bench) (messages : List Message) (actions : List Action)
    (after : Bench) : Prop where
  /-- The service went through `actions`. -/
  service_eq : after.service = bench.service.replay actions
  /-- The stack received nothing but commands. -/
  stack_eq : ∃ commands, after.stack = bench.stack.record commands
  /-- Callers sent `messages`. -/
  sent_eq : actions.filterMap (·.sent?) = messages
  /-- The stack answered as it did at first. -/
  worlds : ∀ world, .handle world ∈ actions → world = bench.stack.surroundings

/-- What became of `bench` while nobody sent anything. -/
def Drifts (bench after : Bench) : Prop := ∃ actions, bench.Course [] actions after

theorem course_refl (bench : Bench) : bench.Course [] [] bench where
  service_eq := rfl
  stack_eq := ⟨[], by simp [Stack.record]⟩
  sent_eq := rfl
  worlds := nofun

theorem Course.trans (h : bench.Course messages actions middle)
    (hrest : middle.Course others more after) :
    bench.Course (messages ++ others) (actions ++ more) after := by
  obtain ⟨commands, hstack⟩ := h.stack_eq
  obtain ⟨commands', hstack'⟩ := hrest.stack_eq
  have hanswers : middle.stack.surroundings = bench.stack.surroundings := by rw [hstack]; rfl
  refine ⟨?_, ⟨commands ++ commands', ?_⟩, ?_, fun world hmem => ?_⟩
  · rw [hrest.service_eq, h.service_eq, Service.replay_append]
  · simp [hstack', hstack, Stack.record]
  · rw [List.filterMap_append, h.sent_eq, hrest.sent_eq]
  · rcases List.mem_append.1 hmem with hfirst | hlater
    · exact h.worlds world hfirst
    · exact (hrest.worlds world hlater).trans hanswers

theorem Course.drifts (h : bench.Course messages actions middle) (hrest : middle.Drifts after) :
    ∃ actions, bench.Course messages actions after := by
  obtain ⟨more, hmore⟩ := hrest
  exact ⟨_, by simpa using h.trans hmore⟩

theorem drifts_refl (bench : Bench) : bench.Drifts bench := ⟨[], bench.course_refl⟩

theorem Drifts.trans (h : bench.Drifts middle) (hrest : middle.Drifts after) :
    bench.Drifts after := h.elim fun _ hcourse => hcourse.drifts hrest

/-- What holds of the service after it: what every action keeps by which nobody sends anything. -/
theorem Drifts.induction {P : Service → Prop} (h : bench.Drifts after)
    (hact : ∀ service action, action.sent? = none → P service → P (service.act action))
    (hstart : P bench.service) : P after.service := by
  obtain ⟨actions, hcourse⟩ := h
  have hunsent : ∀ action ∈ actions, action.sent? = none :=
    List.filterMap_eq_nil_iff.1 hcourse.sent_eq
  rw [hcourse.service_eq]
  exact List.foldlRecOn actions Service.act hstart fun service hservice action hmem =>
    hact service action (hunsent action hmem) hservice

/-- A message that is not accepted changes nothing. -/
theorem course_enqueue (bench : Bench) (message : Message) :
    bench.Course [message] [.enqueue message] ((bench.enqueue message).toOption.getD bench) := by
  refine ⟨?_, ⟨[], ?_⟩, rfl, nofun⟩
  all_goals
    simp only [Bench.enqueue, Service.enqueue, Service.replay, List.foldl, Service.act]
    cases bench.service.running <;> simp [Except.map, Except.toOption, Stack.record]

theorem drifts_handleNext (bench : Bench) : bench.Drifts bench.handleNext := by
  refine ⟨[.handle bench.stack.surroundings], rfl, ⟨_, rfl⟩, rfl, fun world hmem => ?_⟩
  cases List.mem_singleton.1 hmem
  rfl

theorem drifts_handleMany (count : Nat) (bench : Bench) :
    bench.Drifts (bench.handleMany count) := by
  induction count generalizing bench with
  | zero => exact bench.drifts_refl
  | succ count ih => exact bench.drifts_handleNext.trans (ih bench.handleNext)

theorem drifts_advance (bench : Bench) (time : Nat) : bench.Drifts (bench.advance time) :=
  ⟨[.pass time], rfl, ⟨[], by simp [Bench.advance, Stack.record]⟩, rfl, by simp⟩

theorem drifts_ring (bench : Bench) : bench.Drifts bench.ring := by
  unfold ring
  split
  · next alarm _ =>
    exact ⟨[.ring alarm.number], rfl, ⟨[], by simp [Stack.record]⟩, rfl, by simp⟩
  · exact bench.drifts_refl

end Bench

namespace Session

variable {session : Session}

/-! ## Turns and rounds -/

theorem drifts_serviceTurn (session : Session) :
    session.bench.Drifts session.serviceTurn.bench := by
  simp only [serviceTurn, bench_handleMany]
  exact Bench.drifts_handleMany _ session.bench

theorem drifts_alarmTurn (session : Session) (generation : UInt64) :
    session.bench.Drifts (session.alarmTurn generation).bench := by
  unfold alarmTurn
  split
  · split
    · rw [bench_callService]; exact session.bench.drifts_ring
    · exact session.bench.drifts_refl
  · exact session.bench.drifts_refl

/-- Whoever has a turn, the bench goes on by itself. -/
theorem drifts_turn (session : Session) : session.bench.Drifts session.turn.bench := by
  unfold turn
  split
  · exact session.bench.drifts_refl
  · next line _ => exact drifts_serviceTurn { session with line := line }
  · next generation line _ => exact drifts_alarmTurn { session with line := line } generation

theorem drifts_turns (count : Nat) (session : Session) :
    session.bench.Drifts (session.turns count).bench := by
  induction count generalizing session with
  | zero => exact session.bench.drifts_refl
  | succ count ih => exact session.drifts_turn.trans (ih session.turn)

theorem drifts_round (session : Session) : session.bench.Drifts session.round.bench := by
  simp only [round]
  split
  · rw [bench_callService]; exact drifts_turns roundSize session
  · exact drifts_turns roundSize session

/-! ## Waits -/

theorem drifts_pass (session : Session) (time : Nat) :
    session.bench.Drifts (session.pass time).bench := by
  simp only [pass]
  split
  · split
    · rw [bench_callAlarm]; exact session.bench.drifts_advance time
    · exact session.bench.drifts_advance time
  · exact session.bench.drifts_advance time

/-- What holds after rounds: what every round keeps, and the time that passes when nobody is in line
    and what is waited for has not happened. -/
theorem rounds_induction {deadline : Option Nat} {done : Service → Bool} {P : Session → Prop}
    (hround : ∀ session, P session → P session.round)
    (hpass : ∀ session time, P session → session.line = [] → done session.service = false →
      session.nextInstant? deadline = some time → P (session.pass time))
    (h : P session) (count : Nat) : P (session.rounds deadline done count) := by
  induction count generalizing session with
  | zero => exact h
  | succ count ih =>
    have hnext := hround session h
    simp only [rounds]
    split
    · exact hnext
    · next hwaiting =>
      split
      · exact ih hnext
      · next hline =>
        cases htime : session.round.nextInstant? deadline with
        | none => exact hnext
        | some time =>
          have hpassed := hpass _ time hnext (by simpa using hline) (by simpa using hwaiting) htime
          rw [Option.elim_some]
          split
          · exact hpassed
          · exact ih hpassed

theorem drifts_rounds (deadline : Option Nat) (done : Service → Bool) (count : Nat)
    (session : Session) : session.bench.Drifts (session.rounds deadline done count).bench :=
  rounds_induction (P := fun after => session.bench.Drifts after.bench)
    (fun after h => h.trans after.drifts_round)
    (fun after time h _ _ _ => h.trans (after.drifts_pass time)) session.bench.drifts_refl count

theorem drifts_wait (session : Session) (deadline : Option Nat) (done : Service → Bool) :
    session.bench.Drifts (session.wait deadline done).bench :=
  drifts_rounds deadline done session.roundsAhead session

theorem drifts_sleep (session : Session) (ms : Nat) :
    session.bench.Drifts (session.sleep ms).bench := by
  unfold sleep
  split
  · split
    · exact session.drifts_wait _ _
    · exact session.bench.drifts_refl
  · exact session.drifts_wait _ _

/-! ## Callers -/

/-- A message that is not accepted changes nothing. -/
theorem course_enqueue (session : Session) (message : Message) :
    session.bench.Course [message] [.enqueue message]
      ((session.enqueue message).toOption.getD session).bench := by
  have hcourse := session.bench.course_enqueue message
  unfold enqueue
  cases henqueue : session.bench.enqueue message with
  | error error => rw [henqueue] at hcourse; exact hcourse
  | ok bench =>
    rw [henqueue] at hcourse
    show session.bench.Course _ _ (callService _).bench
    rw [bench_callService]
    exact hcourse

/-- Something that a caller does, and waits for if there is something to wait for. -/
inductive Errand where
  /-- Sends an event. -/
  | send (event : Event)
  /-- Waits until all that was enqueued is done. -/
  | flush
  /-- Asks for a route. -/
  | force (route : Route)
  /-- Waits for so many milliseconds. -/
  | sleep (ms : Nat)
  /-- Stops the service. -/
  | shutdown
  /-- Changes the stack. -/
  | arrange (change : Stack → Stack)

/-- The message that is sent on an errand. -/
def Errand.message? : Errand → Option Message
  | send event => some (.event event)
  | flush => some .flush
  | force route => some (.force route)
  | shutdown => some .stop
  | sleep _ | arrange _ => none

/-- The session after an errand.  A call that fails leaves it as it was. -/
def attend (session : Session) : Errand → Session
  | .send event => (session.send event).toOption.getD session
  | .flush => session.flush.toOption.getD session
  | .force route => (session.force route).1
  | .sleep ms => session.sleep ms
  | .shutdown => session.shutdown
  | .arrange change => session.onStack change

/-- The session after all of `errands`. -/
def attendAll (session : Session) (errands : List Errand) : Session := errands.foldl attend session

theorem course_enqueue_wait {message : Message} {after : Session} (wait : Session → Session)
    (hwait : ∀ session : Session, session.bench.Drifts (wait session).bench)
    (hafter : after = ((session.enqueue message).map wait).toOption.getD session) :
    ∃ actions, session.bench.Course [message] actions after.bench := by
  have hcourse := session.course_enqueue message
  cases henqueue : session.enqueue message with
  | error error =>
    rw [henqueue] at hafter hcourse
    exact ⟨_, hafter ▸ hcourse⟩
  | ok sent =>
    rw [henqueue] at hafter hcourse
    exact hafter ▸ hcourse.drifts (hwait sent)

/-- What a caller does but to change the stack: the message is enqueued, and the rest happens by
    itself. -/
theorem course_attend (session : Session) {errand : Errand}
    (h : ∀ change, errand ≠ .arrange change) :
    ∃ actions,
      session.bench.Course errand.message?.toList actions (session.attend errand).bench := by
  have hreply (session : Session) : session.bench.Drifts session.awaitReply.bench :=
    session.drifts_wait none _
  cases errand with
  | send event => exact ⟨_, session.course_enqueue (.event event)⟩
  | flush => exact course_enqueue_wait awaitReply hreply rfl
  | force route =>
    refine course_enqueue_wait awaitReply hreply ?_
    simp only [attend, force]
    cases session.enqueue (.force route) with
    | error error => rfl
    | ok sent => dsimp only; split <;> rfl
  | sleep ms => exact session.drifts_sleep ms
  | shutdown =>
    refine course_enqueue_wait _ (fun session => session.drifts_wait none (!·.running)) ?_
    simp only [attend, shutdown]
    cases session.enqueue .stop <;> rfl
  | arrange change => exact absurd rfl (h change)

/-- The history that the service goes through on an errand. -/
theorem attend_history (session : Session) (errand : Errand) :
    ∃ actions, (session.attend errand).service = session.service.replay actions ∧
      actions.filterMap (·.sent?) = errand.message?.toList ∧
      ∀ world, .handle world ∈ actions → world = session.bench.stack.surroundings := by
  by_cases h : ∃ change, errand = .arrange change
  · obtain ⟨change, rfl⟩ := h
    exact ⟨[], rfl, rfl, nofun⟩
  · obtain ⟨actions, hcourse⟩ := session.course_attend (not_exists.1 h)
    exact ⟨actions, hcourse.service_eq, hcourse.sent_eq, hcourse.worlds⟩

/-- **A session takes its service through a history.**  Whatever a caller does, the service gets its
    messages, in order, and whenever one is handled the stack answers as it did when the caller
    turned to the session. -/
theorem attendAll_history (session : Session) (errands : List Errand) :
    ∃ actions, (session.attendAll errands).service = session.service.replay actions ∧
      actions.filterMap (·.sent?) = errands.filterMap (·.message?) ∧
      ∀ world, .handle world ∈ actions → ∃ earlier later, errands = earlier ++ later ∧
        world = (session.attendAll earlier).bench.stack.surroundings := by
  induction errands generalizing session with
  | nil => exact ⟨[], rfl, rfl, nofun⟩
  | cons errand errands ih =>
    obtain ⟨first, hfirst, hsent, hworlds⟩ := session.attend_history errand
    obtain ⟨rest, hrest, hsent', hworlds'⟩ := ih (session.attend errand)
    refine ⟨first ++ rest, ?_, ?_, fun world hmem => ?_⟩
    · rw [Service.replay_append, ← hfirst]
      exact hrest
    · rw [List.filterMap_append, hsent, hsent', List.filterMap_cons]
      cases errand.message? <;> rfl
    · rcases List.mem_append.1 hmem with hmem | hmem
      · exact ⟨[], errand :: errands, rfl, hworlds world hmem⟩
      · obtain ⟨earlier, later, rfl, hworld⟩ := hworlds' world hmem
        exact ⟨errand :: earlier, later, rfl, hworld⟩

end Session

namespace Service

variable {service : Service} {actions : List Action}

theorem running_of_replay (h : (service.replay actions).running = true) :
    service.running = true := by
  induction actions generalizing service with
  | nil => exact h
  | cons action actions ih => exact service.running_of_act (ih h)

/-- As long as a service runs it gets all that callers send. -/
theorem sent_sublist_arrivals (h : (service.replay actions).running = true) :
    (actions.filterMap (·.sent?)).Sublist (service.arrivals actions) := by
  induction actions generalizing service with
  | nil => exact .slnil
  | cons action actions ih =>
    have hrest := ih h
    have hrunning : service.running = true := running_of_replay h
    cases action with
    | enqueue message =>
      rw [arrivals, arrival?, if_pos hrunning]
      exact hrest.cons_cons message
    | handle _ | pass _ | ring _ => exact hrest.trans (List.sublist_append_right ..)

end Service

/-- **Whoever goes when, a session loses nothing.**  After whatever a caller does, the service has
    handled what arrived one by one and in order, what is seen of it is what follows from that, and
    it has neither lost the outstanding timer nor left a second alarm; and as long as it runs, all
    that the caller sent has arrived, in order. -/
theorem Session.attendAll_start (timeouts : Timeouts) (devices : List Device)
    (errands : List Session.Errand) :
    let service := ((Session.start timeouts devices).attendAll errands).service
    let start := Service.start (.new timeouts)
    ∃ actions, service = start.replay actions ∧
      service.Serial (.new timeouts) (start.arrivals actions) (start.handlings actions) ∧
      service.Timed timeouts (start.armings actions) ∧
      (service.running = true →
        (errands.filterMap (·.message?)).Sublist (start.arrivals actions)) := by
  intro service start
  obtain ⟨actions, hservice, hsent, -⟩ :=
    (Session.start timeouts devices).attendAll_history errands
  have hservice : service = start.replay actions := hservice
  have hserial := Service.serial_replay
    ⟨Service.inOrder_start (.new timeouts), Service.shows_start (.new timeouts)⟩ actions
  have htimed := Service.timed_replay (Service.timed_start timeouts {}) actions
  rw [hservice, ← hsent]
  exact ⟨actions, rfl, hserial, htimed, Service.sent_sublist_arrivals⟩

end CallAudio
