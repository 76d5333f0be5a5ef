/-
  Timing parameters of the route machine.

  A failed connection is tried again at most `Timeouts.maxRetries` times, whatever is
  asked for: `Timeouts.of` clamps the number.
-/
import CallAudio.Timer

namespace CallAudio

/-- Timing parameters of the route machine. -/
structure Timeouts where
  /-- How long a device that was asked to take audio may take to confirm. -/
  confirmation : Duration
  /-- How long to wait before a failed connection is tried again. -/
  backoff : Duration
  /-- How often a failed connection is tried again. -/
  retries : Nat
deriving DecidableEq, Inhabited

namespace Timeouts

/-- The time to confirm unless told otherwise. -/
def defaultConfirmation : Duration := .ofMillis 5000

/-- The wait before a retry unless told otherwise. -/
def defaultBackoff : Duration := .ofMillis 500

/-- No connection is retried more often than this. -/
def maxRetries : Nat := 1

/-- Timeouts with the number of retries clamped to `maxRetries`. -/
def of (confirmation backoff : Duration) (retries : Nat) : Timeouts where
  confirmation := confirmation
  backoff := backoff
  retries := min retries maxRetries

/-- A single attempt, with the default times. -/
def default : Timeouts := of defaultConfirmation defaultBackoff 0

/-- How long a timer of kind `kind` waits. -/
def delay (timeouts : Timeouts) : TimerKind → Duration
  | .confirmation => timeouts.confirmation
  | .retry => timeouts.backoff

end Timeouts

end CallAudio
