/-
  The route machine together with its listener.

  `Router.process` takes an event through the machine and then has the notifier deliver
  the notices of the transition.
-/
import CallAudio.Machine.Process

namespace CallAudio

/-- A route machine and its notifier. -/
structure Router where
  machine : Machine
  notifier : Notifier := {}
deriving DecidableEq, Inhabited

namespace Router

/-- A router in its first state. -/
def new (timeouts : Timeouts) : Router := { machine := { timeouts } }

/-- Where call audio goes. -/
def route (router : Router) : Route := router.machine.route

/-- Registers `listener` in place of the one before. -/
def register (router : Router) (listener : Nat) : Router :=
  { router with notifier := router.notifier.register listener }

/-- Processes one event and delivers its notices. -/
def process (router : Router) (world : Surroundings) (event : Event) : Router × Turn :=
  let turn := router.machine.process world event
  ({ machine := turn.machine, notifier := router.notifier.dispatch turn.transition.notices },
    turn)

/-- Puts the machine into `route`; the listener hears nothing of it. -/
def force (router : Router) (directory : Directory) (route : Route) :
    Except Fault (Router × Option TimerRequest) :=
  (router.machine.force directory route).map fun (machine, timer) =>
    ({ router with machine := machine }, timer)

end Router

end CallAudio
