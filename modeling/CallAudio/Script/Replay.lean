/-
  Replaying a script.

  The script runs on a bench.  When a device comes or goes, the directory learns of it
  before the service does.  After every step the service is flushed and all transitions
  since the step before are collected.

  * `Replay`, `Replay.play`: a script being replayed, and one step of it;
  * `Script.run`: all of it, from the first state to the last transition;
  * `ReplayError`: why a replay fails.
-/
import CallAudio.Bench
import CallAudio.Script.Basic

namespace CallAudio

/-- Why a replay fails. -/
inductive ReplayError where
  /-- The script's first route is refused. -/
  | invalidInitialState (cause : ServiceError)
  /-- Transitions were dropped before they were collected. -/
  | lost (missed collected : Nat)
  /-- The service does not take calls. -/
  | service (cause : ServiceError)
deriving DecidableEq, Inhabited

namespace ReplayError

/-- The text of an error. -/
def message : ReplayError → String
  | invalidInitialState _ => "Invalid initial state"
  | lost missed collected =>
    "Replay lost " ++ toString missed ++ " transitions after " ++ toString collected ++
      " recorded"
  | service cause => cause.message

/-- The texts of an error and of what caused it, outermost first. -/
def chain : ReplayError → List String
  | invalidInitialState cause => (invalidInitialState cause).message :: cause.chain
  | lost missed collected => [(lost missed collected).message]
  | service cause => cause.chain

end ReplayError

/-- A script being replayed. -/
structure Replay where
  bench : Bench
  /-- Reads the service's transitions. -/
  subscriber : Subscriber
  /-- The transitions collected, in order. -/
  collected : List Transition := []
deriving DecidableEq, Inhabited

/-- What an event means for the directory. -/
def Stack.foresee (stack : Stack) : Event → Stack
  | .deviceAdded device => stack.connect device
  | .deviceLost device => stack.disconnect device
  | _ => stack

namespace Replay

/-- The bench with its stack changed. -/
def onStack (bench : Bench) (change : Stack → Stack) : Bench :=
  { bench with stack := change bench.stack }

/-- What a step does to the bench. -/
def perform (bench : Bench) : Step → Except ServiceError Bench
  | .setConnected devices => .ok (onStack bench (·.replace devices))
  | .setActive devices => .ok (onStack bench (·.setActive devices))
  | .setAccepts accepts => .ok (onStack bench (·.setAccepts accepts))
  | .send event => (onStack bench (·.foresee event)).send event
  | .wait ms => .ok (bench.sleep ms)

/-- Collects the transitions since the last time. -/
def collect (replay : Replay) : Except ReplayError Replay :=
  let (delivery, subscriber) := replay.bench.service.feed.drain replay.subscriber
  if delivery.missed = 0 then
    .ok { replay with
      subscriber := subscriber, collected := replay.collected ++ delivery.items }
  else .error (.lost delivery.missed replay.collected.length)

/-- One step. -/
def play (replay : Replay) (step : Step) : Except ReplayError Replay :=
  match (perform replay.bench step).bind Bench.flush with
  | .ok bench => { replay with bench := bench }.collect
  | .error error => .error (.service error)

/-- The end: the service stops, and what is left is collected. -/
def finish (replay : Replay) : Except ReplayError Replay :=
  { replay with bench := replay.bench.shutdown }.collect

/-- The beginning of a script. -/
def start (script : Script) (timeouts : Timeouts) : Except ReplayError Replay :=
  let bench := Bench.start timeouts script.connected
  let subscriber := bench.service.feed.subscribe
  match bench.force script.initial with
  | (bench, .ok ()) => .ok { bench, subscriber }
  | (_, .error cause) => .error (.invalidInitialState cause)

end Replay

/-- Replays a script and returns all transitions, in order. -/
def Script.run (script : Script) (timeouts : Timeouts) :
    Except ReplayError (List Transition) := do
  let replay ← Replay.start script timeouts
  let replay ← script.steps.foldlM Replay.play replay
  let replay ← replay.finish
  return replay.collected

end CallAudio
