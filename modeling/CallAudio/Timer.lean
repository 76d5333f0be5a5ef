/-
  Timers of the route machine.

  The machine never sleeps: it asks its owner to arm a timer and gets the expiry back as
  an event.  Every request carries a generation number, so that the expiry of a timer
  that was replaced in the meantime can be told from the one that counts.

  * `TimerKind`: what a timer waits for;
  * `TimerRequest`: a timer to arm;
  * `TimerAction`: what the owner does with the timer it holds, if any.
-/
import CallAudio.Duration

namespace CallAudio

/-- What a timer waits for. -/
inductive TimerKind where
  /-- The stack should have confirmed audio by now. -/
  | confirmation
  /-- A failed connection may be tried again. -/
  | retry
deriving DecidableEq, Inhabited

/-- The name of the event that the timer's expiry delivers. -/
def TimerKind.name : TimerKind → String
  | .confirmation => "connection_timeout"
  | .retry => "retry_connect"

/-- A timer to arm. -/
structure TimerRequest where
  /-- What it waits for. -/
  kind : TimerKind
  /-- The number that its expiry has to show to be acted on. -/
  generation : UInt64
  /-- How long it waits. -/
  delay : Duration
deriving DecidableEq, Inhabited

/-- What the machine's owner does with its timer after an event. -/
inductive TimerAction where
  /-- Leave an outstanding timer alone. -/
  | keep
  /-- Drop the outstanding timer. -/
  | cancel
  /-- Replace an outstanding timer, if any, by this one. -/
  | arm (request : TimerRequest)
deriving DecidableEq, Inhabited

/-- The timer an action arms. -/
def TimerAction.armed? : TimerAction → Option TimerRequest
  | .arm request => some request
  | .keep | .cancel => none

end CallAudio
