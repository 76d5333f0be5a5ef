/-
  A caller and the route service that share one thread.

  A caller that sends many messages before it waits gets ahead of the service.  Then it
  matters who goes when.

  * Whoever has something to do stands in line: the service, which handles messages, and
    every alarm.  An alarm takes a turn to be set, in which it rings if it is due already;
    later it takes one to ring, or to be dropped.
  * In one turn the service handles no more than `turnSize` messages.  If it has handled that
    many it steps back, and lines up again at the end of the round (`Session.serviceTurn`).
  * A round has `roundSize` turns, or fewer if nobody is left in line (`Session.round`).
    After a round the caller goes on, if what it waits for has happened.
  * If nobody is in line the clock goes to the next due alarm or to the end of the wait.  The
    caller wakes before an alarm that is due at the same instant (`Session.pass`).
  * A caller whose waits are over at once is not held up, but after `turnSize` of them it
    lets the others have a round (`Session.sleep`).

  A caller that flushes after every step never gets ahead; for it a bench is enough.
-/
import CallAudio.Bench

namespace CallAudio

/-- Something that stands in line for a turn. -/
inductive Job where
  /-- The service handles messages. -/
  | service
  /-- The alarm of the timer with this number is set, rings, or is dropped. -/
  | alarm (generation : UInt64)
deriving DecidableEq, Inhabited

/-- A caller with its service. -/
structure Session where
  bench : Bench
  /-- Who is in line, the next one first. -/
  line : List Job
  /-- Whether the service has stepped back until the end of the round. -/
  steppedBack : Bool := false
  /-- How many more waits that are over at once the caller can make in a row. -/
  credit : Nat
deriving DecidableEq, Inhabited

namespace Session

/-- The most messages that the service handles in one turn, and the most waits that a caller
    finishes in one. -/
def turnSize : Nat := 128

/-- The most turns in a round. -/
def roundSize : Nat := 61

/-- A session at time zero on a stack with `devices` connected.  The service is in line. -/
def start (timeouts : Timeouts) (devices : List Device) : Session where
  bench := .start timeouts devices
  line := [.service]
  credit := turnSize

/-- The service of the session. -/
def service (session : Session) : Service := session.bench.service

/-- Changes the stack. -/
def onStack (session : Session) (change : Stack → Stack) : Session :=
  { session with bench := { session.bench with stack := change session.bench.stack } }

/-! ## Lining up -/

/-- Lines the service up, unless it is in line or will be after the round. -/
def callService (session : Session) : Session :=
  if session.steppedBack || session.line.contains .service then session
  else { session with line := session.line ++ [.service] }

/-- Lines an alarm up, unless it is in line. -/
def callAlarm (session : Session) (alarm : Alarm) : Session :=
  let job := Job.alarm alarm.request.generation
  if session.line.contains job then session else { session with line := session.line ++ [job] }

@[simp] theorem bench_callService (session : Session) :
    session.callService.bench = session.bench := by
  unfold callService; split <;> rfl

@[simp] theorem bench_callAlarm (session : Session) (alarm : Alarm) :
    (session.callAlarm alarm).bench = session.bench := by
  simp only [callAlarm]; split <;> rfl

/-- Enqueues a message. -/
def enqueue (session : Session) (message : Message) : Except ServiceError Session :=
  (session.bench.enqueue message).map fun bench => { session with bench := bench }.callService

/-- Enqueues an event; it is processed when the caller waits. -/
def send (session : Session) (event : Event) : Except ServiceError Session :=
  session.enqueue (.event event)

/-! ## Turns -/

/-- Handles one message.  An alarm that is no longer outstanding lines up to be dropped, and
    a new one to be set. -/
def handleNext (session : Session) : Session :=
  let before := session.service.alarm
  let session := { session with bench := session.bench.handleNext }
  let after := session.service.alarm
  if after = before then session
  else
    let session := before.elim session session.callAlarm
    after.elim session session.callAlarm

/-- What a message does on the bench does not depend on who is in line. -/
theorem bench_handleNext (session : Session) :
    session.handleNext.bench = session.bench.handleNext := by
  simp only [handleNext]
  split
  · rfl
  · cases session.service.alarm <;>
      cases (Session.service { session with bench := session.bench.handleNext }).alarm <;>
      simp [Option.elim]

/-- Handles up to `count` messages. -/
def handleMany : (count : Nat) → Session → Session
  | 0, session => session
  | count + 1, session => handleMany count session.handleNext

theorem bench_handleMany (count : Nat) (session : Session) :
    (session.handleMany count).bench = session.bench.handleMany count := by
  induction count generalizing session with
  | zero => rfl
  | succ count ih => rw [handleMany, ih, bench_handleNext, Bench.handleMany]

/-- A turn of the service.  No message arrives during it. -/
def serviceTurn (session : Session) : Session :=
  let count := session.service.queue.length
  let session := session.handleMany (min turnSize count)
  { session with steppedBack := turnSize ≤ count && session.service.running }

/-- A turn of an alarm.  Nothing happens if it has been dropped, or is not due yet. -/
def alarmTurn (session : Session) (generation : UInt64) : Session :=
  match session.service.alarm with
  | some alarm =>
    if alarm.request.generation = generation ∧ alarm.due ≤ session.service.now then
      { session with bench := session.bench.ring }.callService
    else session
  | none => session

/-- A turn of the next in line. -/
def turn (session : Session) : Session :=
  match session.line with
  | [] => session
  | .service :: line => { session with line := line }.serviceTurn
  | .alarm generation :: line => { session with line := line }.alarmTurn generation

/-- So many turns, if there are as many in line. -/
def turns : (count : Nat) → Session → Session
  | 0, session => session
  | count + 1, session => turns count session.turn

/-- A round of turns. -/
def round (session : Session) : Session :=
  let session := session.turns roundSize
  if session.steppedBack then { session with steppedBack := false }.callService else session

/-! ## Waiting -/

/-- Lets time pass until `time`; an alarm that is due then lines up. -/
def pass (session : Session) (time : Nat) : Session :=
  let session := { session with bench := session.bench.advance time }
  match session.service.alarm with
  | some alarm => if alarm.due ≤ time then session.callAlarm alarm else session
  | none => session

/-- The next instant at which something happens by itself: an alarm is due, or a wait until
    `deadline` ends. -/
def nextInstant? (session : Session) (deadline : Option Nat) : Option Nat :=
  match session.service.alarm, deadline with
  | some alarm, some time => some (min alarm.due time)
  | some alarm, none => some alarm.due
  | none, deadline => deadline

/-- Lets the others have rounds until `done`, up to `count` of them. -/
def rounds (deadline : Option Nat) (done : Service → Bool) : (count : Nat) → Session → Session
  | 0, session => session
  | count + 1, session =>
    let session := session.round
    if done session.service then session
    else if !session.line.isEmpty then rounds deadline done count session
    else
      (session.nextInstant? deadline).elim session fun time =>
        let session := session.pass time
        if done session.service then session else rounds deadline done count session

/-- The most rounds that a wait can take.  Every message can set an alarm, from which a
    retry and the confirmation after it can follow for every retry allowed; and each alarm
    takes a few turns, and one message. -/
def roundsAhead (session : Session) : Nat :=
  16 * (session.service.queue.length + session.line.length + 2) *
    (session.service.router.machine.timeouts.retries + 1)

/-- Waits until `done`. -/
def wait (session : Session) (deadline : Option Nat) (done : Service → Bool) : Session :=
  { session.rounds deadline done session.roundsAhead with credit := turnSize - 1 }

/-- Waits for one more answer of the service. -/
def awaitReply (session : Session) : Session :=
  let answered := session.service.replies.length
  session.wait none fun service => answered < service.replies.length

/-- Waits until all that was enqueued is done. -/
def flush (session : Session) : Except ServiceError Session :=
  (session.enqueue .flush).map awaitReply

/-- Asks for a route and waits for the answer.  What was enqueued before is done even if the
    route is refused, so there is a session to go on with in any case. -/
def force (session : Session) (route : Route) : Session × Except ServiceError Unit :=
  match session.enqueue (.force route) with
  | .error error => (session, .error error)
  | .ok session =>
    let session := session.awaitReply
    match session.service.replies.head? with
    | some (.forced (some fault)) => (session, .error (.refused fault))
    | _ => (session, .ok ())

/-- Waits for `ms` milliseconds.  A wait of none is over at once. -/
def sleep (session : Session) (ms : Nat) : Session :=
  if ms = 0 then
    if session.credit = 0 then session.wait none fun _ => true
    else { session with credit := session.credit - 1 }
  else
    let deadline := session.service.now + (Duration.ofMillis ms).waitMillis
    session.wait (some deadline) fun service => deadline ≤ service.now

/-- Stops the service when all that was enqueued is done. -/
def shutdown (session : Session) : Session :=
  match session.enqueue .stop with
  | .error _ => session
  | .ok session => session.wait none fun service => !service.running

end Session

end CallAudio
