/-
  Messages are handled one by one, in the order in which they arrive.

  Callers and alarms share one queue, and what callers see is a copy of what the router has.

  * `Service.arrivals`, `Service.handlings`: the messages that get into the queue in a history, and
    those that are handled;
  * `Router.answers`: what those are told who wait, if messages are handled one after the other;
  * `Router.transitions_chain`: where no route is entered from outside, each transition goes on
    from where the one before it ended;
  * `Service.act_cases`: an action handles the next message, or may bring one into the queue;
  * `Service.handle_with_queue`: what is behind a message is of no account for it;
  * `Service.InOrder`: what is handled is what arrived first, up to the first message to stop;
  * `Service.Shows`: router, published route, feed and answers are those of the messages handled;
  * `Service.serial_replay`: so it is after every history;
  * `Service.serial_processing`: what follows for those who call the service or watch it.
-/
import CallAudio.Proofs.History
import CallAudio.Proofs.Record
import CallAudio.Session

namespace CallAudio

/-- Whether a caller waits for the answer. -/
def Message.isAwaited : Message → Bool
  | force _ | flush => true
  | event _ | stop => false

/-- A message that is handled, and what the stack answers meanwhile. -/
structure Handling where
  message : Message
  world : Surroundings

/-! ## What those are told who wait -/

namespace Handling

/-- What handling a message gives to the router. -/
def input? (handling : Handling) : Option Input := handling.message.input? handling.world

/-- What the caller is told who waits. -/
def answer? (handling : Handling) (router : Router) : Option Reply :=
  match handling.message with
  | .event _ | .stop => none
  | .flush => some .flushed
  | .force route =>
    match router.force handling.world.directory route with
    | .ok _ => some (.forced none)
    | .error fault => some (.forced (some fault))

theorem isSome_answer? (handling : Handling) (router : Router) :
    (handling.answer? router).isSome = handling.message.isAwaited := by
  obtain ⟨message, world⟩ := handling
  cases message with
  | force route => simp only [answer?, Message.isAwaited]; split <;> rfl
  | _ => rfl

/-- Unless a route was accepted, whoever waited finds the router as it was. -/
theorem run_of_answer {handling : Handling} {router : Router} {reply : Reply}
    (h : handling.answer? router = some reply) (hreply : reply ≠ .forced none) :
    router.run handling.input?.toList = router := by
  obtain ⟨message, world⟩ := handling
  cases message with
  | event event => cases h
  | stop => cases h
  | flush => rfl
  | force route =>
    cases hforce : router.force world.directory route with
    | error fault => exact router.take_of_refused hforce
    | ok result => simp only [answer?, hforce] at h; cases h; contradiction

end Handling

namespace Router

/-- What those are told who wait, if messages are handled one after the other. -/
def answers (router : Router) : List Handling → List Reply
  | [] => []
  | handling :: handled =>
    (handling.answer? router).toList ++ (router.run handling.input?.toList).answers handled

theorem answers_append (router : Router) (handled more : List Handling) :
    router.answers (handled ++ more) =
      router.answers handled ++ (router.run (handled.filterMap (·.input?))).answers more := by
  induction handled generalizing router with
  | nil => rfl
  | cons first handled ih =>
    rw [List.cons_append, answers, answers, ih, List.append_assoc, ← run_append,
      List.filterMap_cons]
    cases first.input? <;> rfl

/-- Everybody who waits is told once. -/
theorem length_answers (router : Router) (handled : List Handling) :
    (router.answers handled).length = (handled.map (·.message)).countP (·.isAwaited) := by
  induction handled generalizing router with
  | nil => rfl
  | cons handling handled ih =>
    rw [answers, List.length_append, ih, List.map_cons, List.countP_cons, Nat.add_comm,
      ← handling.isSome_answer? router]
    cases handling.answer? router <;> rfl

/-! ## Transitions that follow one another -/

/-- In a run in which no route is accepted from outside, each transition goes on from where the
    one before it ended, and the first one from where the run begins. -/
theorem transitions_chain {inputs : List Input} {router : Router}
    (h : ∀ moment ∈ router.moments inputs, ∀ directory route,
      moment.input = .force directory route →
        ∃ fault, moment.before.force directory route = .error fault) :
    (∀ first ∈ (router.transitions inputs).head?, first.source = router.route) ∧
      (router.transitions inputs).IsChain (·.target = ·.source) := by
  induction inputs generalizing router with
  | nil => exact ⟨by simp [transitions, moments], .nil⟩
  | cons input inputs ih =>
    obtain ⟨hfirst, hchain⟩ := ih fun moment hmem => h moment (.tail _ hmem)
    cases input with
    | event world event =>
      obtain ⟨-, hsource, htarget⟩ := router.machine.process_record world event
      refine ⟨fun first hmem => ?_, List.isChain_cons.2 ⟨fun next hnext => ?_, hchain⟩⟩
      · cases hmem; exact hsource
      · exact htarget.trans (hfirst next hnext).symm
    | force directory route =>
      obtain ⟨fault, hrefused⟩ := h _ List.mem_cons_self directory route rfl
      have hafter := router.take_of_refused hrefused
      have hsame : router.transitions (.force directory route :: inputs) =
          router.transitions inputs := by
        rw [transitions, moments, hafter]; rfl
      rw [hafter] at hfirst hchain
      rw [hsame]
      exact ⟨hfirst, hchain⟩
    | listen listener => exact ⟨hfirst, hchain⟩

end Router

namespace Service

/-! ## Arrivals and handlings -/

/-- The message that an action brings into the queue. -/
def arrival? (service : Service) : Action → Option Message
  | .enqueue message => if service.running then some message else none
  | .ring number =>
    if service.running then
      ((service.alarms.find? (·.number = number)).filter (·.due ≤ service.now)).map fun alarm =>
        .event alarm.request.event
    else none
  | .handle _ | .pass _ => none

/-- The messages that get into the queue in a history, in order. -/
def arrivals (service : Service) : List Action → List Message
  | [] => []
  | action :: actions =>
    (service.arrival? action).toList ++ (service.act action).arrivals actions

/-- The message that is handled by an action. -/
def handling? (service : Service) : Action → Option Handling
  | .handle world => service.queue.head?.map (⟨·, world⟩)
  | .enqueue _ | .pass _ | .ring _ => none

/-- The messages that are handled in a history, in order. -/
def handlings (service : Service) : List Action → List Handling
  | [] => []
  | action :: actions =>
    (service.handling? action).toList ++ (service.act action).handlings actions

section
variable (service : Service)

theorem handlings_append (actions more : List Action) :
    service.handlings (actions ++ more) =
      service.handlings actions ++ (service.replay actions).handlings more := by
  induction actions generalizing service with
  | nil => rfl
  | cons action actions ih =>
    rw [List.cons_append, handlings, handlings, ih, List.append_assoc]; rfl

theorem arrival?_of_stopped (h : service.running = false) (action : Action) :
    service.arrival? action = none := by
  cases action <;> simp [arrival?, h]

/-- An action is to handle a message, or it is an arrival and has to do with the alarms. -/
theorem act_cases (action : Action) :
    (∃ world message rest, service.queue = message :: rest ∧ service.arrival? action = none ∧
      service.handling? action = some ⟨message, world⟩ ∧
      service.act action = ({ service with queue := rest }.handle world message).1) ∨
    (service.handling? action = none ∧ ∃ alarms now, service.act action = { service with
      queue := service.queue ++ (service.arrival? action).toList, alarms, now }) := by
  cases action with
  | handle world =>
    cases hqueue : service.queue with
    | nil =>
      have hsame : service.act (.handle world) = service := by rw [act, handleNext, hqueue]
      have hempty : ({ service with queue := [] } : Service) = service := by rw [← hqueue]
      exact .inr ⟨by simp [handling?, hqueue], service.alarms, service.now,
        hsame.trans hempty.symm⟩
    | cons message rest =>
      exact .inl ⟨world, message, rest, rfl, rfl, by simp [handling?, hqueue],
        by simp [act, handleNext, hqueue]⟩
  | pass time =>
    exact .inr ⟨rfl, service.alarms, _, by simp [act, arrival?, advance]; rfl⟩
  | enqueue message =>
    refine .inr ⟨rfl, service.alarms, service.now, ?_⟩
    rw [act_enqueue, arrival?]
    split <;> simp
  | ring number =>
    refine .inr ⟨rfl, ?_⟩
    simp only [act, ring, arrival?]
    cases hfind : service.alarms.find? (·.number = number) with
    | none => exact ⟨service.alarms, service.now, by simp⟩
    | some alarm =>
      by_cases hdue : alarm.due ≤ service.now
      · refine ⟨Alarm.without number service.alarms, service.now, ?_⟩
        cases hrunning : service.running <;> simp [hdue, Option.filter]
      · exact ⟨service.alarms, service.now, by simp [hdue, Option.filter]⟩

/-! ## What is seen of a message -/

theorem dropAlarm_eq : ∃ alarms held, service.dropAlarm = { service with alarms, held } := by
  unfold dropAlarm
  split
  · exact ⟨service.alarms, service.held, rfl⟩
  · exact ⟨_, _, rfl⟩

/-- What a transition asks for has only to do with the alarms. -/
theorem obey_eq (timer : TimerAction) : ∃ alarms held alarmsSet,
    service.obey timer = { service with alarms, held, alarmsSet } := by
  obtain ⟨alarms, held, heq⟩ := service.dropAlarm_eq
  cases timer with
  | keep => exact ⟨service.alarms, service.held, service.alarmsSet, rfl⟩
  | cancel => exact ⟨alarms, held, service.alarmsSet, heq⟩
  | arm request => exact ⟨_, _, _, by rw [obey, heq, setAlarm]⟩

/-- What those see of a message who watch or wait. -/
theorem handle_seen (world : Surroundings) (message : Message) :
    let handling : Handling := ⟨message, world⟩
    let after := (service.handle world message).1
    after.router = service.router.run handling.input?.toList ∧
    (service.published = service.router.route → after.published = after.router.route) ∧
    after.feed = (service.router.transitions handling.input?.toList).foldl Feed.publish
      service.feed ∧
    after.replies = (handling.answer? service.router).toList ++ service.replies := by
  cases message with
  | event event =>
    obtain ⟨alarms, held, alarmsSet, heq⟩ :=
      obey_eq { service with router := (service.router.process world event).1 }
        (service.router.process world event).2.transition.timer
    simp only [handle, handleEvent, heq]
    exact ⟨rfl, fun _ => rfl, rfl, rfl⟩
  | force route =>
    cases hforce : service.router.force world.directory route with
    | error fault =>
      simp [handle, handleForce, reply, Handling.input?, Message.input?, Handling.answer?,
        Router.run, Router.take, Router.transitions, Router.moments, Moment.transition?,
        Moment.turn?, hforce]
    | ok result =>
      obtain ⟨router, request⟩ := result
      obtain ⟨alarms, held, heq⟩ := dropAlarm_eq { service with router := router }
      cases request <;>
        simp [handle, handleForce, reply, Handling.input?, Message.input?, Handling.answer?,
          Router.run, Router.take, Router.transitions, Router.moments, Moment.transition?,
          Moment.turn?, hforce, heq, setAlarm, publishRoute]
  | flush => exact ⟨rfl, id, rfl, rfl⟩
  | stop =>
    obtain ⟨alarms, held, heq⟩ := service.dropAlarm_eq
    simp only [handle, stop, heq]
    exact ⟨rfl, id, rfl, rfl⟩

/-- Only the message to stop has to do with the queue. -/
theorem handle_of_ne_stop {message : Message} (h : message ≠ .stop) (world : Surroundings) :
    let after := (service.handle world message).1
    after.queue = service.queue ∧ after.running = service.running := by
  cases hinput : message.input? world with
  | some input =>
    obtain ⟨_, _, _, heq⟩ := service.handle_eq hinput
    rw [heq]
    exact ⟨queue_obey .., running_obey ..⟩
  | none =>
    cases message with
    | event event => cases hinput
    | force route => cases hinput
    | flush => exact ⟨rfl, rfl⟩
    | stop => exact absurd rfl h

/-- A service that has stopped does not run again. -/
theorem running_of_act {action : Action} (h : (service.act action).running = true) :
    service.running = true := by
  rcases service.act_cases action with
    ⟨world, message, rest, -, -, -, heq⟩ | ⟨-, alarms, now, heq⟩
  · rw [heq] at h
    by_cases hstop : message = .stop
    · subst hstop; cases h
    · rw [(handle_of_ne_stop { service with queue := rest } hstop world).2] at h
      exact h
  · rw [heq] at h; exact h

end

/-! ## What is behind a message -/

/-- What a transition asks for does not depend on what else is in the queue. -/
theorem obey_with_queue (service : Service) (timer : TimerAction) (queue : List Message) :
    { service with queue }.obey timer = { service.obey timer with queue } := by
  obtain ⟨router, _, alarms, held, alarmsSet, now, published, feed, replies, running⟩ := service
  cases timer with
  | keep => rfl
  | cancel => cases held <;> rfl
  | arm request => cases held <;> rfl

/-- Unless it is to stop, a message does not depend on what is behind it in the queue. -/
theorem handle_with_queue (service : Service) (world : Surroundings) {message : Message}
    (h : message ≠ .stop) (queue : List Message) :
    { service with queue }.handle world message =
      ({ (service.handle world message).1 with queue }, (service.handle world message).2) := by
  cases message with
  | event event =>
    have hobey := obey_with_queue { service with router := (service.router.process world event).1 }
      (service.router.process world event).2.transition.timer queue
    simp only [handle, handleEvent, publishRoute, hobey]
  | force route =>
    simp only [handle, handleForce]
    cases service.router.force world.directory route with
    | error fault => rfl
    | ok result =>
      obtain ⟨router, request⟩ := result
      obtain ⟨_, _, alarms, held, alarmsSet, now, published, feed, replies, running⟩ := service
      cases request <;> cases held <;> rfl
  | flush => rfl
  | stop => exact absurd rfl h

/-- What is in the queue does not outlast the service. -/
theorem stop_with_queue (service : Service) (queue : List Message) :
    { service with queue }.stop = service.stop := by
  obtain ⟨router, _, alarms, held, alarmsSet, now, published, feed, replies, running⟩ := service
  cases held <;> rfl

/-! ## The queue -/

/-- What arrived is handled in order, up to the first message to stop. -/
inductive InOrder (service : Service) (arrived handled : List Message) : Prop
  /-- The others are in the queue. -/
  | running (hrunning : service.running = true) (harrived : arrived = handled ++ service.queue)
      (hhandled : .stop ∉ handled)
  /-- What arrived behind is lost. -/
  | stopped {before behind : List Message} (hrunning : service.running = false)
      (hqueue : service.queue = []) (harrived : arrived = before ++ .stop :: behind)
      (hhandled : handled = before ++ [.stop]) (hbefore : .stop ∉ before)

variable {service : Service} {arrived handled : List Message}

theorem inOrder_start (router : Router) : (start router).InOrder [] [] :=
  .running rfl rfl (by simp)

/-- Nothing is handled before what arrived earlier. -/
theorem InOrder.isPrefix (h : service.InOrder arrived handled) : handled <+: arrived := by
  cases h with
  | running _ harrived => exact ⟨_, harrived.symm⟩
  | @stopped _ behind _ _ harrived hhandled =>
    exact ⟨behind, by rw [harrived, hhandled, List.append_assoc]; rfl⟩

theorem InOrder.queue_eq (h : service.InOrder arrived handled)
    (hstopped : service.running = false) : service.queue = [] := by
  cases h with
  | running hrunning => rw [hstopped] at hrunning; cases hrunning
  | stopped _ hqueue => exact hqueue

/-- Only the queue counts, and whether the service runs. -/
theorem InOrder.arrive {action : Action} {after : Service}
    (h : service.InOrder arrived handled) (hrunning : after.running = service.running)
    (hqueue : after.queue = service.queue ++ (service.arrival? action).toList) :
    after.InOrder (arrived ++ (service.arrival? action).toList) handled := by
  cases h with
  | running hgoes harrived hhandled =>
    refine .running (hrunning.trans hgoes) ?_ hhandled
    rw [harrived, hqueue, List.append_assoc]
  | stopped hstopped hempty harrived hhandled hbefore =>
    -- nothing arrives any more
    have harrival := service.arrival?_of_stopped hstopped action
    rw [harrival, Option.toList_none, List.append_nil] at hqueue ⊢
    exact .stopped (hrunning.trans hstopped) (hqueue.trans hempty) harrived hhandled hbefore

/-- The message to stop empties the queue; the others leave it as it is. -/
theorem InOrder.handle {message : Message} {rest : List Message}
    (h : service.InOrder arrived handled) (hqueue : service.queue = message :: rest)
    (world : Surroundings) :
    ({ service with queue := rest }.handle world message).1.InOrder arrived
      (handled ++ [message]) := by
  cases h with
  | stopped _ hempty => rw [hempty] at hqueue; cases hqueue
  | running hrunning harrived hhandled =>
    rw [hqueue] at harrived
    by_cases hstop : message = .stop
    · subst hstop
      exact .stopped rfl rfl harrived rfl hhandled
    · obtain ⟨hrest, hgoes⟩ := handle_of_ne_stop { service with queue := rest } hstop world
      refine .running (hgoes.trans hrunning) ?_ ?_
      · rw [hrest, harrived, List.append_assoc]; rfl
      · simpa [hhandled] using Ne.symm hstop

/-! ## Histories -/

/-- What is seen of a service that began with the router `start` and handled `handled`. -/
structure Shows (start : Router) (handled : List Handling) (service : Service) : Prop where
  /-- The router went through the inputs one after the other. -/
  router : service.router = start.run (handled.filterMap (·.input?))
  /-- Callers see its route. -/
  published : service.published = service.router.route
  /-- The transitions were published. -/
  feed : service.feed.Carries (start.transitions (handled.filterMap (·.input?)))
  /-- Those who waited were told. -/
  replies : service.replies.reverse = start.answers handled

variable {start : Router} {done : List Handling}

theorem shows_start (router : Router) : (Service.start router).Shows router [] :=
  ⟨rfl, rfl, Feed.carries_nil, rfl⟩

/-- Queue and alarms are not seen. -/
theorem Shows.congr {other : Service} (h : service.Shows start done)
    (hrouter : other.router = service.router) (hpublished : other.published = service.published)
    (hfeed : other.feed = service.feed) (hreplies : other.replies = service.replies) :
    other.Shows start done := by
  refine ⟨hrouter.trans h.router, ?_, ?_, ?_⟩
  · rw [hpublished, hrouter, h.published]
  · rw [hfeed]; exact h.feed
  · rw [hreplies, h.replies]

/-- A message adds what it gives to the router, the feed and those who wait. -/
theorem Shows.handle (h : service.Shows start done) (world : Surroundings) (message : Message) :
    (service.handle world message).1.Shows start (done ++ [⟨message, world⟩]) := by
  obtain ⟨hrouter, hpublished, hfeed, hreplies⟩ := service.handle_seen world message
  have hinputs : (done ++ [(⟨message, world⟩ : Handling)]).filterMap (·.input?) =
      done.filterMap (·.input?) ++ (Handling.input? ⟨message, world⟩).toList := by
    rw [List.filterMap_append, List.filterMap_cons]
    cases Handling.input? ⟨message, world⟩ <;> rfl
  refine ⟨?_, hpublished h.published, ?_, ?_⟩
  · rw [hrouter, hinputs, Router.run_append, h.router]
  · rw [hfeed, hinputs, Router.transitions_append, h.router]
    exact h.feed.publishAll _
  · have hanswer (reply : Option Reply) : reply.toList.reverse = reply.toList := by
      cases reply <;> rfl
    rw [hreplies, List.reverse_append, h.replies, hanswer, Router.answers_append, h.router]
    exact congrArg _ (List.append_nil _).symm

/-- A service that began with the router `start`, to which `arrived` came and which handled
    `done`. -/
structure Serial (start : Router) (arrived : List Message) (done : List Handling)
    (service : Service) : Prop where
  /-- Messages are handled in order. -/
  order : service.InOrder arrived (done.map (·.message))
  /-- What is seen is what follows from them. -/
  shows : service.Shows start done

theorem Serial.act (h : service.Serial start arrived done) (action : Action) :
    (service.act action).Serial start (arrived ++ (service.arrival? action).toList)
      (done ++ (service.handling? action).toList) := by
  rcases service.act_cases action with
    ⟨world, message, rest, hqueue, harrival, hhandling, heq⟩ | ⟨hhandling, alarms, now, heq⟩
  · rw [harrival, hhandling, heq, Option.toList_none, List.append_nil, Option.toList_some]
    have hshows : ({ service with queue := rest } : Service).Shows start done :=
      h.shows.congr rfl rfl rfl rfl
    refine ⟨?_, hshows.handle world message⟩
    rw [List.map_append]
    exact h.order.handle hqueue world
  · rw [hhandling, heq, Option.toList_none, List.append_nil]
    exact ⟨h.order.arrive rfl rfl, h.shows.congr rfl rfl rfl rfl⟩

/-- **Whatever happens, messages are handled one by one and in order.** -/
theorem serial_replay (h : service.Serial start arrived done) (actions : List Action) :
    (service.replay actions).Serial start (arrived ++ service.arrivals actions)
      (done ++ service.handlings actions) := by
  induction actions generalizing service arrived done with
  | nil => simpa [arrivals, handlings, replay] using h
  | cons action actions ih =>
    rw [arrivals, handlings, ← List.append_assoc, ← List.append_assoc]
    exact ih (h.act action)

/-- A service that has stopped handles nothing any more. -/
theorem handlings_of_stopped (hrunning : service.running = false) (hqueue : service.queue = [])
    (actions : List Action) :
    service.handlings actions = [] ∧ (service.replay actions).running = false := by
  induction actions generalizing service with
  | nil => exact ⟨rfl, hrunning⟩
  | cons action actions ih =>
    rcases service.act_cases action with
      ⟨world, message, rest, hhead, -⟩ | ⟨hhandling, alarms, now, heq⟩
    · rw [hqueue] at hhead; cases hhead
    · have hafter : (service.act action).queue = [] := by
        rw [heq, service.arrival?_of_stopped hrunning action, hqueue]; rfl
      have hstays : (service.act action).running = false := by rw [heq]; exact hrunning
      rw [handlings, hhandling]
      exact ih hstays hafter

/-! ## Calls of a service that has stopped -/

theorem enqueue_of_stopped (h : service.running = false) (message : Message) :
    service.enqueue message = .error .queueClosed := by
  rw [enqueue, h]; rfl

/-- Nobody waits in vain. -/
theorem calls_of_stopped {session : Session} (h : session.service.running = false) :
    (∀ event, session.send event = .error .queueClosed) ∧
      session.flush = .error .queueClosed ∧
      ∀ route, session.force route = (session, .error .queueClosed) := by
  have hclosed (message : Message) : session.enqueue message = .error .queueClosed := by
    have hservice : session.bench.service.enqueue message = .error .queueClosed :=
      enqueue_of_stopped h message
    rw [Session.enqueue, Bench.enqueue, hservice]; rfl
  refine ⟨fun event => hclosed (.event event), ?_, fun route => ?_⟩
  · rw [Session.flush, hclosed]; rfl
  · rw [Session.force, hclosed]

/-! ## What callers and subscribers get -/

/-- A subscriber gets the transitions since it subscribed. -/
theorem Shows.drain {after : Service} {more : List Handling} (h : service.Shows start done)
    (hafter : after.Shows start (done ++ more)) :
    let since := service.router.transitions (more.filterMap (·.input?))
    let delivery := (after.feed.drain service.feed.subscribe).1
    delivery.missed = since.length - Feed.capacity ∧
      delivery.items = since.drop delivery.missed := by
  have hplace : service.feed.subscribe =
      ⟨(start.transitions (done.filterMap (·.input?))).length⟩ :=
    congrArg Subscriber.mk h.feed.published
  have hfeed := hafter.feed
  rw [List.filterMap_append, Router.transitions_append, ← h.router] at hfeed
  rw [hplace]
  exact hfeed.drain

/-- Whoever is told waited for all that arrived before. -/
theorem Serial.answered (h : service.Serial start arrived done)
    {earlier later : List Message} {message : Message} {reply : Reply}
    (harrived : arrived = earlier ++ message :: later) (hawaited : message.isAwaited = true)
    (hreply : service.replies.reverse[earlier.countP (·.isAwaited)]? = some reply) :
    ∃ before world after, done = before ++ ⟨message, world⟩ :: after ∧
      before.map (·.message) = earlier ∧
      Handling.answer? ⟨message, world⟩ (start.run (before.filterMap (·.input?))) =
        some reply := by
  have hprefix := h.order.isPrefix
  -- more were told than wait in `earlier`, so that more than `earlier` is handled
  have hlonger : earlier.length < (done.map (·.message)).length := by
    by_contra hshort
    have hless : done.map (·.message) <+: earlier :=
      List.prefix_of_prefix_length_le hprefix ⟨_, harrived.symm⟩ (Nat.le_of_not_lt hshort)
    have hcount := hless.sublist.countP_le (p := (·.isAwaited))
    obtain ⟨htold, -⟩ := List.getElem?_eq_some_iff.1 hreply
    rw [h.shows.replies, Router.length_answers] at htold
    omega
  have hcovered : earlier ++ [message] <+: done.map (·.message) :=
    List.prefix_of_prefix_length_le ⟨later, by simp [harrived]⟩ hprefix
      (by rw [List.length_append]; exact hlonger)
  obtain ⟨rest, hrest⟩ := hcovered
  rw [List.append_assoc, List.singleton_append] at hrest
  obtain ⟨before, tail, rfl, hbefore, htail⟩ := List.map_eq_append_iff.1 hrest.symm
  obtain ⟨⟨_, world⟩, after, rfl, rfl, -⟩ := List.map_eq_cons_iff.1 htail
  refine ⟨before, world, after, rfl, hbefore, ?_⟩
  obtain ⟨told, htold⟩ := Option.isSome_iff_exists.1 ((Handling.isSome_answer?
    ⟨_, world⟩ (start.run (before.filterMap (·.input?)))).trans hawaited)
  have hcount : earlier.countP (·.isAwaited) = (start.answers before).length := by
    rw [Router.length_answers, hbefore]
  rw [h.shows.replies, Router.answers_append, Router.answers, hcount,
    List.getElem?_append_right le_rfl, Nat.sub_self, htold] at hreply
  exact htold.trans hreply

/-- **The queue is handled in order, and what is seen of the service is what follows from it.**
    After every history, whatever callers and alarms enqueue, in whatever order, and whatever the
    stack answers: what was handled is what arrived first and the rest is in the queue, but what
    arrived behind the first message to stop is lost; router, published route, answers and feed
    are those of handling these messages one after the other; a subscriber gets the transitions
    since it subscribed, in order, all but the oldest if the feed has no room for them; whoever
    is told was told after all that arrived earlier was handled, and unless a route was accepted
    finds the router as that left it; where no route is accepted from outside, each transition
    goes on from where the one before it ended; and once the service has stopped every call fails
    and nothing more is handled. -/
theorem serial_processing (router : Router) (actions : List Action) :
    let start := Service.start router
    let service := start.replay actions
    let arrived := start.arrivals actions
    let handled := start.handlings actions
    let inputs := handled.filterMap (·.input?)
    (service.running = true → arrived = handled.map (·.message) ++ service.queue ∧
      .stop ∉ handled.map (·.message)) ∧
    (service.running = false → ∃ before behind, arrived = before ++ .stop :: behind ∧
      handled.map (·.message) = before ++ [.stop] ∧ .stop ∉ before) ∧
    service.router = router.run inputs ∧
    service.published = service.router.route ∧
    service.replies.reverse = router.answers handled ∧
    service.feed.published = (router.transitions inputs).length ∧
    (∀ earlier later, actions = earlier ++ later →
      let before := start.replay earlier
      let since := before.router.transitions ((before.handlings later).filterMap (·.input?))
      let delivery := (service.feed.drain before.feed.subscribe).1
      delivery.missed = since.length - Feed.capacity ∧
        delivery.items = since.drop delivery.missed) ∧
    (∀ earlier message later reply, arrived = earlier ++ message :: later →
      message.isAwaited = true →
      service.replies.reverse[earlier.countP (·.isAwaited)]? = some reply →
      ∃ before world after, handled = before ++ ⟨message, world⟩ :: after ∧
        before.map (·.message) = earlier ∧
        let reached := router.run (before.filterMap (·.input?))
        Handling.answer? ⟨message, world⟩ reached = some reply ∧
        (reply ≠ .forced none →
          reached.run (Handling.input? ⟨message, world⟩).toList = reached)) ∧
    (∀ before between after, inputs = before ++ between ++ after →
      (∀ moment ∈ (router.run before).moments between, ∀ directory route,
        moment.input = .force directory route →
          ∃ fault, moment.before.force directory route = .error fault) →
      ((router.run before).transitions between).IsChain (·.target = ·.source)) ∧
    (service.running = false →
      (∀ message, service.enqueue message = .error .queueClosed) ∧
      (∀ session : Session, session.service = service →
        (∀ event, session.send event = .error .queueClosed) ∧
        session.flush = .error .queueClosed ∧
        ∀ route, session.force route = (session, .error .queueClosed)) ∧
      ∀ more, start.handlings (actions ++ more) = handled ∧
        (start.replay (actions ++ more)).running = false) := by
  intro start service arrived handled inputs
  have serial (actions : List Action) :
      (start.replay actions).Serial router (start.arrivals actions) (start.handlings actions) :=
    serial_replay ⟨inOrder_start router, shows_start router⟩ actions
  have h : service.Serial router arrived handled := serial actions
  refine ⟨fun hrunning => ?_, fun hstopped => ?_, h.shows.router, h.shows.published,
    h.shows.replies, h.shows.feed.published, ?_, ?_, ?_, ?_⟩
  · cases h.order with
    | running _ harrived hhandled => exact ⟨harrived, hhandled⟩
    | stopped hstopped => rw [hrunning] at hstopped; cases hstopped
  · cases h.order with
    | running hrunning => rw [hstopped] at hrunning; cases hrunning
    | stopped _ _ harrived hhandled hbefore => exact ⟨_, _, harrived, hhandled, hbefore⟩
  · intro earlier later hactions before
    have hafter := h.shows
    rw [show handled = start.handlings earlier ++ before.handlings later by
      rw [← handlings_append, ← hactions]] at hafter
    exact (serial earlier).shows.drain hafter
  · intro earlier message later reply harrived hawaited hreply
    obtain ⟨before, world, after, hhandled, hbefore, hanswer⟩ :=
      h.answered harrived hawaited hreply
    exact ⟨before, world, after, hhandled, hbefore, hanswer, Handling.run_of_answer hanswer⟩
  · exact fun before between after _ hrefused => (Router.transitions_chain hrefused).2
  · intro hstopped
    refine ⟨enqueue_of_stopped hstopped,
      fun session hservice => calls_of_stopped (hservice.symm ▸ hstopped), fun more => ?_⟩
    obtain ⟨hnothing, hstays⟩ :=
      handlings_of_stopped hstopped (h.order.queue_eq hstopped) more
    rw [handlings_append, hnothing, List.append_nil, replay, List.foldl_append]
    exact ⟨rfl, hstays⟩

/-- A caller that flushes while a device is connecting, and one that comes too late. -/
theorem serial_processing_stopped :
    let world := (Stack.ofDevices [⟨"A"⟩]).surroundings
    let router := Router.new (.of (.ofMillis 5000) (.ofMillis 500) 1)
    let start := Service.start router
    let actions : List Action :=
      [.enqueue (.event (.connect none)), .enqueue .flush, .handle world, .handle world,
        .pass 5000, .ring 0, .enqueue .stop, .enqueue (.event .disconnect), .handle world,
        .handle world, .handle world]
    let service := start.replay actions
    let handled := start.handlings actions
    service.running = false ∧
      start.arrivals actions = [.event (.connect none), .flush,
        .event (.expired .confirmation 1), .stop, .event .disconnect] ∧
      service.replies.reverse[0]? = some .flushed ∧
      (∃ before world after, handled = before ++ ⟨.flush, world⟩ :: after ∧
        before.map (·.message) = [.event (.connect none)]) ∧
      (router.transitions (handled.filterMap (·.input?))).IsChain (·.target = ·.source) ∧
      service.enqueue .flush = .error .queueClosed := by
  intro world router start actions service handled
  have hstopped : service.running = false := by decide
  have harrived : start.arrivals actions = [.event (.connect none), .flush,
      .event (.expired .confirmation 1), .stop, .event .disconnect] := by decide
  have htold : service.replies.reverse[0]? = some .flushed := by decide
  obtain ⟨-, -, -, -, -, -, -, hanswered, hchain, hclosed⟩ := serial_processing router actions
  obtain ⟨before, world', after, hhandled, hbefore, -⟩ :=
    hanswered [.event (.connect none)] .flush _ .flushed harrived rfl htold
  refine ⟨hstopped, harrived, htold, ⟨before, world', after, hhandled, hbefore⟩,
    hchain [] _ [] (List.append_nil _).symm ?_, (hclosed hstopped).1 .flush⟩
  have hinputs : handled.filterMap (·.input?) =
      [.event world (.connect none), .event world (.expired .confirmation 1)] := by cbv
  intro moment hmem directory route hforce
  rw [hinputs] at hmem
  simp only [Router.moments, List.mem_cons, List.not_mem_nil, or_false] at hmem
  rcases hmem with rfl | rfl <;> cases hforce

end Service

end CallAudio
