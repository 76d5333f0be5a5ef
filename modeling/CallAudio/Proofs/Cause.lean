/-
  What events come from.

  A service gets an event because a caller sends it or because an alarm rings.

  * `Cause`, `Service.causes`: why events got into the queue in a history, in order;
  * `Service.carries_replay`: all transitions of a history are published;
  * `Service.map_event_transitions`: while nothing is left in the queue, each of them has led to
    one transition;
  * `Service.Timed.rung_sublist`: the alarms that ring are for timers in the order in which these
    were armed, and no timer's alarm rings twice.
-/
import CallAudio.Proofs.Alarm
import CallAudio.Proofs.Serial

namespace CallAudio

/-- Why an event got into the queue. -/
inductive Cause where
  /-- A caller sent it. -/
  | sent (event : Event)
  /-- An alarm rang. -/
  | rung (alarm : Alarm)
deriving DecidableEq

namespace Cause

/-- The event that got into the queue. -/
def event : Cause → Event
  | sent event => event
  | rung alarm => alarm.request.event

/-- The event that a caller sent. -/
def sent? : Cause → Option Event
  | sent event => some event
  | rung _ => none

/-- The alarm that rang. -/
def rung? : Cause → Option Alarm
  | sent _ => none
  | rung alarm => some alarm

theorem filterMap_sent?_rung (alarms : List Alarm) :
    (alarms.map rung).filterMap sent? = [] := by
  induction alarms with
  | nil => rfl
  | cons alarm alarms ih => exact ih

theorem filterMap_sent?_sent (events : List Event) :
    (events.map sent).filterMap sent? = events := by
  induction events with
  | nil => rfl
  | cons event events ih => exact congrArg (event :: ·) ih

theorem filterMap_rung?_sent (events : List Event) :
    (events.map sent).filterMap rung? = [] := by
  induction events with
  | nil => rfl
  | cons event events ih => exact ih

theorem filterMap_rung?_rung (alarms : List Alarm) :
    (alarms.map rung).filterMap rung? = alarms := by
  induction alarms with
  | nil => rfl
  | cons alarm alarms ih => exact congrArg (alarm :: ·) ih

end Cause

/-- The event that a message holds. -/
def Message.event? : Message → Option Event
  | event e => some e
  | force _ | flush | stop => none

namespace Service

/-- Why an action brings an event into the queue, if it does. -/
def cause? (service : Service) : Action → Option Cause
  | .enqueue message => if service.running then message.event?.map .sent else none
  | .ring number =>
    if service.running then
      ((service.alarms.find? (·.number = number)).filter (·.due ≤ service.now)).map .rung
    else none
  | .handle _ | .pass _ => none

/-- Why events got into the queue in a history, in order. -/
def causes (service : Service) : List Action → List Cause
  | [] => []
  | action :: actions => (service.cause? action).toList ++ (service.act action).causes actions

variable {service : Service}

theorem replay_append (service : Service) (actions more : List Action) :
    service.replay (actions ++ more) = (service.replay actions).replay more := by
  simp [replay]

theorem causes_append (service : Service) (actions more : List Action) :
    service.causes (actions ++ more) =
      service.causes actions ++ (service.replay actions).causes more := by
  induction actions generalizing service with
  | nil => rfl
  | cons action actions ih =>
    rw [List.cons_append, causes, causes, ih, List.append_assoc]; rfl

theorem inputs_append (service : Service) (actions more : List Action) :
    service.inputs (actions ++ more) =
      service.inputs actions ++ (service.replay actions).inputs more := by
  induction actions generalizing service with
  | nil => rfl
  | cons action actions ih =>
    rw [List.cons_append, inputs, inputs, ih, List.append_assoc]; rfl

/-! ## Every event has a cause -/

theorem event?_arrival? (service : Service) (action : Action) :
    (service.arrival? action).bind (·.event?) = (service.cause? action).map (·.event) := by
  cases action with
  | enqueue message =>
    cases message <;> simp only [arrival?, cause?] <;> split <;> rfl
  | ring number =>
    simp only [arrival?, cause?]
    split
    · rw [Option.map_map]
      cases (service.alarms.find? (·.number = number)).filter (·.due ≤ service.now) <;> rfl
    · rfl
  | handle world => rfl
  | pass time => rfl

/-- The events that arrive are those of the causes. -/
theorem filterMap_event?_arrivals (service : Service) (actions : List Action) :
    (service.arrivals actions).filterMap (·.event?) = (service.causes actions).map (·.event) := by
  induction actions generalizing service with
  | nil => rfl
  | cons action actions ih =>
    have hstep : (service.arrival? action).toList.filterMap (·.event?) =
        (service.cause? action).toList.map (·.event) := by
      rw [← Option.toList_map, ← event?_arrival?]
      cases service.arrival? action with
      | none => rfl
      | some message => cases message <;> rfl
    rw [arrivals, causes, List.filterMap_append, List.map_append, hstep, ih]

theorem filterMap_input?_handling? (service : Service) (action : Action) :
    (service.handling? action).toList.filterMap (·.input?) = (service.input? action).toList := by
  cases action with
  | handle world =>
    simp only [handling?, input?]
    cases service.queue.head? with
    | none => rfl
    | some message => cases hinput : message.input? world <;> simp [Handling.input?, hinput]
  | enqueue message => rfl
  | pass time => rfl
  | ring number => rfl

theorem filterMap_input?_handlings (service : Service) (actions : List Action) :
    (service.handlings actions).filterMap (·.input?) = service.inputs actions := by
  induction actions generalizing service with
  | nil => rfl
  | cons action actions ih =>
    rw [handlings, inputs, List.filterMap_append, filterMap_input?_handling?, ih]

/-! ## What is published -/

variable {service : Service} {items : List Transition}

/-- What an action has the router process is published. -/
theorem carries_act (h : service.feed.Carries items) (action : Action) :
    (service.act action).feed.Carries
      (items ++ service.router.transitions (service.input? action).toList) := by
  rw [← filterMap_input?_handling?]
  rcases service.act_cases action with
    ⟨world, message, rest, -, -, hhandling, heq⟩ | ⟨hhandling, alarms, now, heq⟩
  · obtain ⟨-, -, hfeed, -⟩ := handle_seen { service with queue := rest } world message
    rw [hhandling, heq, hfeed]
    exact h.publishAll _
  · rw [hhandling, heq]
    exact (List.append_nil items).symm ▸ h

/-- The feed carries the transitions of the history. -/
theorem carries_replay (h : service.feed.Carries items) (actions : List Action) :
    (service.replay actions).feed.Carries
      (items ++ service.router.transitions (service.inputs actions)) := by
  induction actions generalizing service items with
  | nil => exact (List.append_nil items).symm ▸ h
  | cons action actions ih =>
    have hrest := ih (carries_act h action)
    rw [router_act] at hrest
    rw [inputs, Router.transitions_append, ← List.append_assoc]
    cases hinput : service.input? action with
    | none => rw [hinput] at hrest; exact hrest
    | some input => rw [hinput] at hrest; exact hrest

end Service

/-- Every event that is handled leads to one transition, which names it. -/
theorem Router.map_event_transitions (router : Router) (handled : List Handling) :
    (router.transitions (handled.filterMap (·.input?))).map (·.event) =
      ((handled.map (·.message)).filterMap (·.event?)).map (·.kind) := by
  induction handled generalizing router with
  | nil => rfl
  | cons handling handled ih =>
    obtain ⟨message, world⟩ := handling
    cases message with
    | event event =>
      obtain ⟨hevent, -⟩ := router.machine.process_record world event
      have hrest := ih (router.take (.event world event))
      exact congrArg₂ List.cons hevent hrest
    | force route => exact ih (router.take (.force world.directory route))
    | flush => exact ih router
    | stop => exact ih router

namespace Service

variable {timeouts : Timeouts} {service : Service} {armings : List Arming}

/-- **Once nothing is left in the queue, every cause has led to one transition, in order.** -/
theorem map_event_transitions (router : Router) {actions : List Action}
    (hrunning : ((start router).replay actions).running = true)
    (hqueue : ((start router).replay actions).queue = []) :
    (router.transitions ((start router).inputs actions)).map (·.event) =
      ((start router).causes actions).map (·.event.kind) := by
  have hserial := serial_replay ⟨inOrder_start router, shows_start router⟩ actions
  rw [List.nil_append, List.nil_append] at hserial
  cases hserial.order with
  | stopped hstopped => rw [hrunning] at hstopped; cases hstopped
  | running _ harrived =>
    rw [hqueue, List.append_nil] at harrived
    rw [← filterMap_input?_handlings, Router.map_event_transitions, ← harrived,
      filterMap_event?_arrivals, List.map_map]
    rfl

/-! ## Alarms ring once -/

theorem alarms_dropAlarm_sublist (service : Service) :
    service.dropAlarm.alarms.Sublist service.alarms := by
  unfold dropAlarm
  split
  · exact List.Sublist.refl _
  · exact List.filter_sublist

/-- No alarm is left after a transition that was not there before or is asked for. -/
theorem alarms_obey_sublist (service : Service) (timer : TimerAction) :
    ((service.obey timer).alarms.map (·.request)).Sublist
      (service.alarms.map (·.request) ++ timer.armed?.toList) := by
  have hdropped := service.alarms_dropAlarm_sublist.map (·.request)
  cases timer with
  | keep => exact List.sublist_append_left _ _
  | cancel => exact hdropped.trans (List.sublist_append_left _ _)
  | arm request =>
    simp only [obey, setAlarm, List.map_append, TimerAction.armed?, Option.toList_some,
      List.map_singleton]
    exact hdropped.append (List.Sublist.refl _)

/-- An alarm that rings is the only one, and then none is left. -/
theorem Alarmed.ring_cases (h : service.Alarmed armings) (number : Nat) :
    service.act (.ring number) = service ∧ (service.cause? (.ring number)).bind (·.rung?) = none ∨
      ∃ alarm, service.alarms = [alarm] ∧ (service.act (.ring number)).alarms = [] ∧
        (service.cause? (.ring number)).bind (·.rung?) =
          if service.running then some alarm else none := by
  rcases h.held with hnil | ⟨alarm, halarm, -⟩
  · exact .inl (by simp [Service.act, Service.ring, cause?, hnil])
  · by_cases hrings : alarm.number = number ∧ alarm.due ≤ service.now
    · obtain ⟨rfl, hdue⟩ := hrings
      have hleft : (service.act (.ring alarm.number)).alarms = [] := by
        simp [Service.act, Service.ring, halarm, hdue, Alarm.without]
      refine .inr ⟨alarm, halarm, hleft, ?_⟩
      cases hrunning : service.running <;>
        simp [cause?, hrunning, halarm, hdue, Option.filter, Cause.rung?]
    · refine .inl ?_
      by_cases hnumber : alarm.number = number
      · have hdue : ¬ alarm.due ≤ service.now := fun hdue => hrings ⟨hnumber, hdue⟩
        simp [Service.act, Service.ring, cause?, halarm, hnumber, hdue, Option.filter]
      · simp [Service.act, Service.ring, cause?, halarm, hnumber]

theorem alarms_handle_sublist (service : Service) (world : Surroundings) (message : Message) :
    ((service.handle world message).1.alarms.map (·.request)).Sublist
      (service.alarms.map (·.request) ++ ((message.input? world).bind fun input =>
        Moment.armed? ⟨service.router, input⟩).toList) := by
  cases hinput : message.input? world with
  | some input =>
    obtain ⟨_, _, _, heq⟩ := service.handle_eq hinput
    rw [heq]
    exact alarms_obey_sublist _ _
  | none =>
    refine List.Sublist.trans ?_ (List.sublist_append_left _ _)
    cases message with
    | event event => cases hinput
    | force route => cases hinput
    | flush => exact List.Sublist.refl _
    | stop => exact service.alarms_dropAlarm_sublist.map _

/-- An alarm that rings by an action, or is left after it, was left before or is set by it. -/
theorem Alarmed.rung_sublist (h : service.Alarmed armings) (action : Action) :
    (((service.cause? action).bind (·.rung?)).toList.map (·.request) ++
        (service.act action).alarms.map (·.request)).Sublist
      (service.alarms.map (·.request) ++ (service.arming? action).toList.map (·.request)) := by
  cases action with
  | enqueue message =>
    have hcause : (service.cause? (.enqueue message)).bind (·.rung?) = none := by
      simp only [cause?]
      split
      · cases message <;> rfl
      · rfl
    rw [hcause, act_enqueue]
    split <;> exact List.sublist_append_left _ _
  | pass time => exact List.sublist_append_left _ _
  | ring number =>
    refine List.Sublist.trans ?_ (List.sublist_append_left _ _)
    rcases h.ring_cases number with ⟨heq, hcause⟩ | ⟨alarm, halarm, halarms, hcause⟩
    · rw [heq, hcause]; exact List.Sublist.refl _
    · rw [hcause, halarms, halarm]
      cases service.running <;> simp
  | handle world =>
    have harming : (service.arming? (.handle world)).toList.map (·.request) =
        ((service.input? (.handle world)).bind fun input =>
          Moment.armed? ⟨service.router, input⟩).toList := by
      rw [arming?, ← Option.toList_map, Option.map_bind]
      simp [Function.comp_def]
    rw [harming, input?, Service.act, handleNext]
    cases service.queue with
    | nil => exact List.sublist_append_left _ _
    | cons message rest =>
      exact alarms_handle_sublist { service with queue := rest } world message

/-- **No timer's alarm rings twice.** -/
theorem Timed.rung_sublist (h : service.Timed timeouts armings) (actions : List Action) :
    (((service.causes actions).filterMap (·.rung?)).map (·.request) ++
        (service.replay actions).alarms.map (·.request)).Sublist
      (service.alarms.map (·.request) ++ (service.armings actions).map (·.request)) := by
  induction actions generalizing service armings with
  | nil => simp [causes, Service.armings, replay]
  | cons action actions ih =>
    have hstep := h.alarmed.rung_sublist action
    have hrest := ih (h.act action)
    have hcauses : (service.causes (action :: actions)).filterMap (·.rung?) =
        ((service.cause? action).bind (·.rung?)).toList ++
          ((service.act action).causes actions).filterMap (·.rung?) := by
      rw [causes, List.filterMap_append]
      cases service.cause? action with
      | none => rfl
      | some cause => cases cause <;> rfl
    rw [hcauses, Service.armings, List.map_append, List.map_append, List.append_assoc,
      ← List.append_assoc (service.alarms.map _)]
    exact ((List.Sublist.refl _).append hrest).trans (by
      rw [← List.append_assoc]
      exact hstep.append (List.Sublist.refl _))

end Service

end CallAudio
