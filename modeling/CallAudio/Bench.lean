/-
  A route service on a stack in memory, with a clock that only moves when nothing is left
  to do.

  The service handles its queue while the caller waits.  When the queue is empty the clock
  goes straight to the next due alarm, or to the end of the wait.  There is no limit to what
  the service handles in one go: that is enough for a caller that waits after every message,
  and `CallAudio.Session` is about callers that do not.

  * `Bench.runUntil`: lets time pass until a given instant and handles all there is to do
    before;
  * `Bench.flush`, `Bench.force`, `Bench.sleep`, `Bench.shutdown`: the calls that wait;
  * `Bench.send`: the call that does not.
-/
import CallAudio.Service
import CallAudio.Stack.Memory

namespace CallAudio

/-- A route service and the stack it runs on. -/
structure Bench where
  service : Service
  stack : Stack
deriving DecidableEq, Inhabited

namespace Bench

/-- A service at time zero on a stack with `devices` connected. -/
def start (timeouts : Timeouts) (devices : List Device) : Bench where
  service := .start (.new timeouts)
  stack := .ofDevices devices

/-- Enqueues a message. -/
def enqueue (bench : Bench) (message : Message) : Except ServiceError Bench :=
  (bench.service.enqueue message).map fun service => { bench with service := service }

/-- Enqueues an event; it is processed when a caller waits. -/
def send (bench : Bench) (event : Event) : Except ServiceError Bench :=
  bench.enqueue (.event event)

/-- Handles one message. -/
def handleNext (bench : Bench) : Bench :=
  let (service, commands) := bench.service.handleNext bench.stack.surroundings
  { service := service, stack := bench.stack.record commands }

/-- Handles up to `count` messages. -/
def handleMany : (count : Nat) → Bench → Bench
  | 0, bench => bench
  | count + 1, bench => handleMany count bench.handleNext

/-- Handles all that is enqueued.  No message enqueues another, so as many steps as there
    are messages are enough. -/
def work (bench : Bench) : Bench := handleMany bench.service.queue.length bench

/-- Lets time pass until `time`. -/
def advance (bench : Bench) (time : Nat) : Bench :=
  { bench with service := bench.service.advance time }

/-- Lets the alarm ring if it is due. -/
def ring (bench : Bench) : Bench :=
  match bench.service.alarm with
  | some alarm => { bench with service := bench.service.ring alarm.number }
  | none => bench

/-- Lets time pass until the alarm is due, and handles its event. -/
def ringAlarm (bench : Bench) (alarm : Alarm) : Bench := (bench.advance alarm.due).ring.work

/-- Lets the alarms that are due before `time` ring one after the other, up to `count`. -/
def ringMany (time : Nat) : (count : Nat) → Bench → Bench
  | 0, bench => bench
  | count + 1, bench =>
    match bench.service.alarm with
    | some alarm =>
      if alarm.due < time then ringMany time count (bench.ringAlarm alarm) else bench
    | none => bench

/-- The most alarms that can ring before a caller sends anything: those that follow from
    the outstanding timer, and one that the machine no longer waits for. -/
def alarmsAhead (bench : Bench) : Nat := bench.service.router.machine.expiriesAhead + 1

/-- Handles all that is enqueued and all that alarms due before `time` bring about.  An
    alarm that is due already rings behind what is enqueued. -/
def workBefore (bench : Bench) (time : Nat) : Bench :=
  let bench := bench.ring.work
  ringMany time bench.alarmsAhead bench

/-- Handles all there is to do up to the present instant, and at it. -/
def settle (bench : Bench) : Bench := bench.workBefore (bench.service.now + 1)

/-- Lets time pass until `time`, and handles all there is to do before.  The caller wakes
    first: an alarm that is due at `time` rings when the caller waits again. -/
def runUntil (bench : Bench) (time : Nat) : Bench := (bench.workBefore time).advance time

/-- Waits until all that was enqueued is done. -/
def flush (bench : Bench) : Except ServiceError Bench :=
  (bench.enqueue .flush).map settle

/-- Asks for a route and waits for the answer.  What was enqueued before is done even if
    the route is refused, so there is a bench to go on with in any case. -/
def force (bench : Bench) (route : Route) : Bench × Except ServiceError Unit :=
  match bench.enqueue (.force route) with
  | .error error => (bench, .error error)
  | .ok bench =>
    let bench := bench.settle
    match bench.service.replies.head? with
    | some (.forced (some fault)) => (bench, .error (.refused fault))
    | _ => (bench, .ok ())

/-- Waits for `ms` milliseconds.  A wait of none is over before the service has a turn. -/
def sleep (bench : Bench) (ms : Nat) : Bench :=
  if ms = 0 then bench
  else bench.runUntil (bench.service.now + (Duration.ofMillis ms).waitMillis)

/-- Stops the service when all that was enqueued is done. -/
def shutdown (bench : Bench) : Bench :=
  match bench.enqueue .stop with
  | .error _ => bench
  | .ok bench => bench.settle

end Bench

end CallAudio
