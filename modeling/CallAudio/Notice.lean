/-
  Notices about devices and audio, and the listener that gets them.

  A transition carries notices in order.  The notifier delivers them to the registered
  listener, if there is one, while it holds the lock that it shares with call control,
  since a listener's answer to a notice crosses into call control.

  * `Notice`: one notice;
  * `Call`: one delivery, as the listener saw it;
  * `Notifier.dispatch`: delivers the notices of a transition.
-/

namespace CallAudio

/-- A notice about devices or audio. -/
inductive Notice where
  /-- A device came or went. -/
  | deviceListChanged
  /-- The first device came. -/
  | deviceAvailable
  /-- The last device went. -/
  | deviceUnavailable
  /-- Audio goes to a hands-free device now. -/
  | audioConnected
  /-- Audio goes to no hands-free device now. -/
  | audioDisconnected
deriving DecidableEq, Inhabited

/-- The name of a notice. -/
def Notice.name : Notice → String
  | deviceListChanged => "device_list_changed"
  | deviceAvailable => "device_available"
  | deviceUnavailable => "device_unavailable"
  | audioConnected => "audio_connected"
  | audioDisconnected => "audio_disconnected"

/-- Whether the lock shared with call control is held. -/
inductive Lock where
  | free
  | held
deriving DecidableEq, Inhabited

/-- One delivery of a notice. -/
structure Call where
  /-- The listener that was called. -/
  listener : Nat
  /-- What it was told. -/
  notice : Notice
  /-- The shared lock during the call. -/
  lock : Lock
deriving DecidableEq, Inhabited

/-- Delivers notices to the registered listener. -/
structure Notifier where
  /-- The registered listener. -/
  listener? : Option Nat := none
  /-- The lock shared with call control. -/
  lock : Lock := .free
  /-- The deliveries so far, in order. -/
  calls : List Call := []
deriving DecidableEq, Inhabited

namespace Notifier

/-- Registers `listener` in place of the one before. -/
def register (notifier : Notifier) (listener : Nat) : Notifier :=
  { notifier with listener? := some listener }

/-- Takes the shared lock. -/
def acquire (notifier : Notifier) : Notifier := { notifier with lock := .held }

/-- Gives the shared lock back. -/
def release (notifier : Notifier) : Notifier := { notifier with lock := .free }

/-- Tells `listener` one notice. -/
def deliver (listener : Nat) (notifier : Notifier) (notice : Notice) : Notifier :=
  { notifier with calls := notifier.calls ++ [⟨listener, notice, notifier.lock⟩] }

/-- Delivers `notices` in order under the lock; without a listener or without notices
    nothing happens, and the lock is not touched. -/
def dispatch (notifier : Notifier) (notices : List Notice) : Notifier :=
  match notifier.listener?, notices with
  | none, _ | _, [] => notifier
  | some listener, notices => (notices.foldl (deliver listener) notifier.acquire).release

/-- Without notices nothing happens. -/
theorem dispatch_nil (notifier : Notifier) : notifier.dispatch [] = notifier := by
  unfold dispatch; split <;> simp_all

/-- Delivering notices one after the other changes the calls only. -/
theorem foldl_deliver (listener : Nat) (notices : List Notice) (notifier : Notifier) :
    notices.foldl (deliver listener) notifier =
      { notifier with
        calls := notifier.calls ++ notices.map (⟨listener, ·, notifier.lock⟩) } := by
  induction notices generalizing notifier with
  | nil => simp
  | cons notice notices ih => simp [ih, deliver]

/-- After a dispatch the lock is free if it was free before. -/
theorem dispatch_lock {notifier : Notifier} (h : notifier.lock = .free) (notices : List Notice) :
    (notifier.dispatch notices).lock = .free := by
  unfold dispatch
  split
  · exact h
  · exact h
  · rfl

/-- A dispatch keeps the registered listener. -/
theorem dispatch_listener (notifier : Notifier) (notices : List Notice) :
    (notifier.dispatch notices).listener? = notifier.listener? := by
  unfold dispatch
  split
  · rfl
  · rfl
  · simp [foldl_deliver, acquire, release]

/-- Each notice is delivered once, in order, to the registered listener, under the lock. -/
theorem dispatch_calls (notifier : Notifier) (notices : List Notice) :
    (notifier.dispatch notices).calls =
      notifier.calls ++ notifier.listener?.toList.flatMap fun listener =>
        notices.map (⟨listener, ·, .held⟩) := by
  unfold dispatch
  split
  · simp_all
  · simp
  · simp_all [foldl_deliver, acquire, release]

end Notifier

end CallAudio
