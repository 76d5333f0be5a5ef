/-
  Histories of a route service.

  A history is any list of actions: callers enqueue what they like, the service handles the
  next message while the stack answers what it likes, time passes, and alarms ring once they
  are due.

  * `Action`, `Service.act`, `Service.replay`: histories;
  * `Service.inputs`, `Service.router_replay`: the inputs that the router gets in a history, and
    that the router after it is the one after a run with these inputs;
  * `Service.armings`: the timers that the service was told to arm, and when.
-/
import CallAudio.Proofs.Run
import CallAudio.Service

namespace CallAudio

/-- Something that happens to a service. -/
inductive Action where
  /-- A caller enqueues a message. -/
  | enqueue (message : Message)
  /-- The service handles the next message, while the stack answers as `world` does. -/
  | handle (world : Surroundings)
  /-- Time passes until `time`. -/
  | pass (time : Nat)
  /-- Alarm `number` rings, if it is due. -/
  | ring (number : Nat)

/-- What handling a message gives to the router. -/
def Message.input? (world : Surroundings) : Message → Option Input
  | .event e => some (.event world e)
  | .force route => some (.force world.directory route)
  | .flush | .stop => none

/-- A timer that the service was told to arm. -/
structure Arming where
  /-- The timer. -/
  request : TimerRequest
  /-- The time at which it was armed, in milliseconds. -/
  time : Nat
deriving DecidableEq

namespace Service

/-- The service after an action.  A message that is not accepted changes nothing. -/
def act (service : Service) : Action → Service
  | .enqueue message =>
    match service.enqueue message with
    | .ok service => service
    | .error _ => service
  | .handle world => (service.handleNext world).1
  | .pass time => service.advance time
  | .ring number => service.ring number

/-- The service after all of `actions`. -/
def replay (service : Service) (actions : List Action) : Service := actions.foldl act service

/-- The input that an action gives to the router. -/
def input? (service : Service) : Action → Option Input
  | .handle world => service.queue.head?.bind (·.input? world)
  | .enqueue _ | .pass _ | .ring _ => none

/-- The inputs that the router gets in a history. -/
def inputs (service : Service) : List Action → List Input
  | [] => []
  | action :: actions => (service.input? action).toList ++ (service.act action).inputs actions

/-- The timer that the service is told to arm by an action. -/
def arming? (service : Service) (action : Action) : Option Arming :=
  (service.input? action).bind fun input =>
    (Moment.armed? ⟨service.router, input⟩).map (⟨·, service.now⟩)

/-- The timers that the service was told to arm in a history, in order. -/
def armings (service : Service) : List Action → List Arming
  | [] => []
  | action :: actions => (service.arming? action).toList ++ (service.act action).armings actions

/-! ## What a message does -/

section
variable (service : Service)

@[simp] theorem router_dropAlarm : service.dropAlarm.router = service.router := by
  unfold dropAlarm; split <;> rfl

@[simp] theorem queue_dropAlarm : service.dropAlarm.queue = service.queue := by
  unfold dropAlarm; split <;> rfl

@[simp] theorem now_dropAlarm : service.dropAlarm.now = service.now := by
  unfold dropAlarm; split <;> rfl

@[simp] theorem running_dropAlarm : service.dropAlarm.running = service.running := by
  unfold dropAlarm; split <;> rfl

@[simp] theorem router_obey (timer : TimerAction) :
    (service.obey timer).router = service.router := by
  cases timer <;> simp [obey, setAlarm]

@[simp] theorem queue_obey (timer : TimerAction) :
    (service.obey timer).queue = service.queue := by
  cases timer <;> simp [obey, setAlarm]

@[simp] theorem running_obey (timer : TimerAction) :
    (service.obey timer).running = service.running := by
  cases timer <;> simp [obey, setAlarm]

/-- A message for the router is an input to it, and then the service does with its alarm what
    is asked for.  The rest is for those who watch or wait. -/
theorem handle_eq {world : Surroundings} {message : Message} {input : Input}
    (h : message.input? world = some input) :
    let moment : Moment := ⟨service.router, input⟩
    ∃ published feed replies, (service.handle world message).1 =
      { ({ service with router := moment.after }.obey moment.timer) with
        published := published, feed := feed, replies := replies } := by
  cases message with
  | event event => cases h; exact ⟨_, _, _, rfl⟩
  | force route =>
    cases h
    cases hforce : service.router.force world.directory route with
    | error fault =>
      refine ⟨service.published, service.feed, .forced (some fault) :: service.replies, ?_⟩
      simp [handle, handleForce, Moment.after, Router.take, Moment.timer, hforce, obey, reply]
    | ok result =>
      obtain ⟨router, request⟩ := result
      cases request <;>
        simp only [handle, handleForce, Moment.after, Router.take, Moment.timer, hforce] <;>
        exact ⟨_, _, _, rfl⟩
  | flush => cases h
  | stop => cases h

/-- The messages that are not for the router leave it alone. -/
theorem router_handle_of_none {world : Surroundings} {message : Message}
    (h : message.input? world = none) :
    (service.handle world message).1.router = service.router := by
  cases message with
  | event event => cases h
  | force route => cases h
  | flush => rfl
  | stop => exact service.router_dropAlarm

/-- Only messages that are handled have to do with the router. -/
theorem arming?_enqueue (message : Message) : service.arming? (.enqueue message) = none := rfl

theorem arming?_pass (time : Nat) : service.arming? (.pass time) = none := rfl

theorem arming?_ring (number : Nat) : service.arming? (.ring number) = none := rfl

theorem act_enqueue (message : Message) :
    service.act (.enqueue message) =
      if service.running then { service with queue := service.queue ++ [message] }
      else service := by
  simp only [act, enqueue]
  cases service.running <;> rfl

/-- An alarm rings at most once, and not before it is due. -/
theorem ring_cases (number : Nat) :
    service.ring number = service ∨
      ∃ alarm ∈ service.alarms, alarm.number = number ∧ alarm.due ≤ service.now ∧
        service.ring number = { service with
          alarms := Alarm.without number service.alarms
          queue := if service.running then service.queue ++ [.event alarm.request.event]
            else service.queue } := by
  unfold ring
  split
  · next alarm hfind =>
    split
    · next hdue =>
      have hnumber : alarm.number = number := by simpa using List.find?_some hfind
      exact .inr ⟨alarm, List.mem_of_find?_eq_some hfind, hnumber, hdue, rfl⟩
    · exact .inl rfl
  · exact .inl rfl

end

/-! ## The router in a history -/

theorem router_act (service : Service) (action : Action) :
    (service.act action).router =
      (service.input? action).elim service.router service.router.take := by
  cases action with
  | enqueue message => rw [act_enqueue]; split <;> rfl
  | pass time => rfl
  | ring number =>
    show (service.ring number).router = service.router
    rcases service.ring_cases number with h | ⟨alarm, -, -, -, h⟩ <;> rw [h]
  | handle world =>
    simp only [act, handleNext, input?]
    cases service.queue with
    | nil => rfl
    | cons message rest =>
      rw [List.head?_cons, Option.bind_some]
      cases h : message.input? world with
      | none => exact router_handle_of_none _ h
      | some input =>
        obtain ⟨_, _, _, heq⟩ := handle_eq { service with queue := rest } h
        rw [heq]
        exact router_obey _ _

/-- **The router goes through a history as through a run with the inputs that it gets.** -/
theorem router_replay (service : Service) (actions : List Action) :
    (service.replay actions).router = service.router.run (service.inputs actions) := by
  induction actions generalizing service with
  | nil => rfl
  | cons action actions ih =>
    rw [inputs, Router.run_append]
    have hstep := service.router_act action
    have hrest := ih (service.act action)
    rw [hstep] at hrest
    cases h : service.input? action with
    | none => rw [h] at hrest; exact hrest
    | some input => rw [h] at hrest; exact hrest

end Service

end CallAudio
