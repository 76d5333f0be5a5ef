/-
  The route service: one router behind one queue.

  Callers enqueue messages at any time; the service handles them one by one, in order, so
  the router is never entered twice.  A timer is an alarm that is set for its due time and
  then runs by itself; a due alarm enqueues its event like any other caller.  The service has
  hold of the alarm it set last and of no other: an alarm that it lets go of without dropping
  it rings all the same.

  * `Message`, `Reply`: what callers enqueue, and what those who wait are told;
  * `Service.enqueue`, `Service.handleNext`, `Service.advance`, `Service.ring`: the steps
    of which every history of a service is made;
  * `ServiceError`: why a call fails.
-/
import CallAudio.Feed
import CallAudio.Router

namespace CallAudio

/-- Something for the service to do. -/
inductive Message where
  /-- Process an event. -/
  | event (event : Event)
  /-- Put the machine into a route, and say whether that was possible. -/
  | force (route : Route)
  /-- Say when all that was enqueued before is done. -/
  | flush
  /-- Stop. -/
  | stop
deriving DecidableEq, Inhabited

/-- The answer to a caller that waits. -/
inductive Reply where
  /-- All that was enqueued before the flush is done. -/
  | flushed
  /-- The machine is in the route asked for, or was refused it. -/
  | forced (refusal : Option Fault)
deriving DecidableEq, Inhabited

/-- Why a call of the service fails. -/
inductive ServiceError where
  /-- The service has stopped. -/
  | queueClosed
  /-- The machine refused a route. -/
  | refused (fault : Fault)
deriving DecidableEq, Inhabited

namespace ServiceError

/-- The text of an error. -/
def message : ServiceError → String
  | queueClosed => "Route event queue closed"
  | refused fault => "Route error: " ++ fault.message

/-- The texts of an error and of what caused it, outermost first. -/
def chain : ServiceError → List String
  | queueClosed => [queueClosed.message]
  | refused fault => [(refused fault).message, fault.message]

end ServiceError

/-- An alarm that was set for a timer. -/
structure Alarm where
  /-- How many alarms were set before it. -/
  number : Nat
  /-- The timer. -/
  request : TimerRequest
  /-- The time at which it rings, in milliseconds. -/
  due : Nat
deriving DecidableEq, Inhabited

/-- The alarms that are left when alarm `number` is gone. -/
def Alarm.without (number : Nat) (alarms : List Alarm) : List Alarm :=
  alarms.filter (·.number ≠ number)

/-- The route service. -/
structure Service where
  router : Router
  /-- Messages to handle, the next one first. -/
  queue : List Message := []
  /-- The alarms that were set, and have neither rung nor been dropped. -/
  alarms : List Alarm := []
  /-- The number of the alarm that the service has hold of; it may have rung. -/
  held : Option Nat := none
  /-- How many alarms were set. -/
  alarmsSet : Nat := 0
  /-- The time in milliseconds since the start. -/
  now : Nat := 0
  /-- The route that callers see. -/
  published : Route
  /-- The transitions, for those who subscribe. -/
  feed : Feed Transition := {}
  /-- The answers given, the latest first. -/
  replies : List Reply := []
  /-- Whether messages are still accepted. -/
  running : Bool := true
deriving DecidableEq

namespace Service

/-- A service at time zero. -/
def start (router : Router) : Service where
  router := router
  published := router.route

instance : Inhabited Service := ⟨start default⟩

/-- Enqueues a message, unless the service has stopped. -/
def enqueue (service : Service) (message : Message) : Except ServiceError Service :=
  if service.running then .ok { service with queue := service.queue ++ [message] }
  else .error .queueClosed

/-- The alarm that rings next. -/
def alarm (service : Service) : Option Alarm := service.alarms.head?

/-- Drops the alarm that the service has hold of, unless it has rung. -/
def dropAlarm (service : Service) : Service :=
  match service.held with
  | none => service
  | some number =>
    { service with held := none, alarms := Alarm.without number service.alarms }

/-- Sets an alarm for a timer that starts now, and takes hold of it.  The alarm held so far is
    let go of, and not dropped. -/
def setAlarm (service : Service) (request : TimerRequest) : Service :=
  { service with
    alarms := service.alarms ++
      [⟨service.alarmsSet, request, service.now + request.delay.waitMillis⟩]
    held := some service.alarmsSet
    alarmsSet := service.alarmsSet + 1 }

/-- Does with the alarm what a transition asks for. -/
def obey (service : Service) : TimerAction → Service
  | .keep => service
  | .cancel => service.dropAlarm
  | .arm request => service.dropAlarm.setAlarm request

/-- Shows callers the machine's route. -/
def publishRoute (service : Service) : Service :=
  { service with published := service.router.route }

/-- Answers a caller that waits. -/
def reply (service : Service) (reply : Reply) : Service :=
  { service with replies := reply :: service.replies }

/-- Processes an event, and returns the commands that the headset received. -/
def handleEvent (service : Service) (world : Surroundings) (event : Event) :
    Service × List Command :=
  let (router, turn) := service.router.process world event
  let service := ({ service with router := router }.obey turn.transition.timer).publishRoute
  ({ service with feed := service.feed.publish turn.transition }, turn.issued)

/-- Puts the machine into a route, if it accepts.  The alarm of before is dropped then,
    and stays if the route is refused. -/
def handleForce (service : Service) (world : Surroundings) (route : Route) : Service :=
  match service.router.force world.directory route with
  | .error fault => service.reply (.forced (some fault))
  | .ok (router, timer) =>
    let service := { service with router := router }.dropAlarm
    let service := match timer with
      | none => service
      | some request => service.setAlarm request
    service.publishRoute.reply (.forced none)

/-- Stops: what is still enqueued is lost, and no alarm rings any more. -/
def stop (service : Service) : Service :=
  { service.dropAlarm with queue := [], running := false }

/-- Handles one message, already taken off the queue. -/
def handle (service : Service) (world : Surroundings) : Message → Service × List Command
  | .event event => service.handleEvent world event
  | .force route => (service.handleForce world route, [])
  | .flush => (service.reply .flushed, [])
  | .stop => (service.stop, [])

/-- Handles the next message, if there is one. -/
def handleNext (service : Service) (world : Surroundings) : Service × List Command :=
  match service.queue with
  | [] => (service, [])
  | message :: rest => { service with queue := rest }.handle world message

/-- Lets time pass until `time`. -/
def advance (service : Service) (time : Nat) : Service :=
  { service with now := max service.now time }

/-- Alarm `number` rings, if it is due: its event is enqueued, unless the service has stopped. -/
def ring (service : Service) (number : Nat) : Service :=
  match service.alarms.find? (·.number = number) with
  | some alarm =>
    if alarm.due ≤ service.now then
      { service with
        alarms := Alarm.without number service.alarms
        queue := if service.running then service.queue ++ [.event alarm.request.event]
          else service.queue }
    else service
  | none => service

end Service

end CallAudio
