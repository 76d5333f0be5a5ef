/-
  Routes are entered from outside as a whole, or not at all.

  A caller that asks for a route waits until all that was enqueued before is handled.  If the
  route is refused, the history goes on as if the caller had not asked.

  * `Service.handle_of_unknown`, `Service.Alarmed.handle_of_covers`: all that becomes of a service
    that is asked for a route;
  * `Service.replay_with_replies`: what callers were told is of no account for what follows;
  * `Service.Postpones`: two services, in one of which a message waits that the other has not;
    `Service.postpones_replay`: so they go on until it is the turn of that message;
  * `Service.refused_unnoticed`: nobody but the caller notices that a route was refused;
  * `Service.atomic_entry`: all of it, for every service that can be reached.
-/
import CallAudio.Proofs.Cause
import CallAudio.Proofs.Entry

namespace CallAudio

/-- Whether the service handles a message. -/
def Action.isHandle : Action → Bool
  | handle _ => true
  | enqueue _ | pass _ | ring _ => false

namespace Service

variable {service : Service} {armings : List Arming} {world : Surroundings} {route : Route}
  {device : Device}

/-! ## A request for a route -/

theorem handle_of_unknown (hdevice : route.device? = some device)
    (hunknown : world.directory.contains device = false) :
    service.handle world (.force route) =
      (service.reply (.forced (some (.unknownDevice device))), []) := by
  have hforce := @Router.force_of_unknown service.router _ _ _ hdevice hunknown
  simp only [handle, handleForce, hforce]

/-- The alarm of before is dropped, and another one set if the route awaits confirmation. -/
theorem Alarmed.handle_of_covers (h : service.Alarmed armings)
    (hcovers : world.directory.Covers route) :
    let (machine, request) := service.router.machine.enter route
    service.handle world (.force route) = ({ service with
      router := { service.router with machine }
      alarms := request.toList.map fun request =>
        ⟨service.alarmsSet, request, service.now + request.delay.waitMillis⟩
      held := request.map fun _ => service.alarmsSet
      alarmsSet := service.alarmsSet + request.toList.length
      published := route
      replies := .forced none :: service.replies }, []) := by
  have hforce := @Router.force_of_covers service.router _ _ hcovers
  have hkept : Alarmed { service with
    router := { service.router with machine := (service.router.machine.enter route).1 } }
      armings := h.congr rfl rfl rfl
  simp only [Service.handle, Service.handleForce, hforce, hkept.dropAlarm_eq]
  cases route <;> rfl

/-! ## What callers were told -/

section
variable (service)

theorem obey_with_replies (timer : TimerAction) (replies : List Reply) :
    { service with replies }.obey timer = { service.obey timer with replies } := by
  obtain ⟨router, queue, alarms, held, alarmsSet, now, published, feed, _, running⟩ := service
  cases timer with
  | keep => rfl
  | cancel => cases held <;> rfl
  | arm request => cases held <;> rfl

theorem handle_with_replies (world : Surroundings) (message : Message) (replies : List Reply) :
    ∃ answered, (service.handle world message).1.replies = answered ++ service.replies ∧
      { service with replies }.handle world message =
        ({ (service.handle world message).1 with replies := answered ++ replies },
          (service.handle world message).2) := by
  obtain ⟨-, -, -, hreplies⟩ := service.handle_seen world message
  refine ⟨_, hreplies, ?_⟩
  cases message with
  | event event =>
    have hobey := obey_with_replies
      { service with router := (service.router.process world event).1 }
      (service.router.process world event).2.transition.timer replies
    simp only [handle, handleEvent, publishRoute, hobey]
    rfl
  | force route =>
    simp only [handle, handleForce, Handling.answer?]
    cases service.router.force world.directory route with
    | error fault => rfl
    | ok result =>
      obtain ⟨router, request⟩ := result
      obtain ⟨_, queue, alarms, held, alarmsSet, now, published, feed, _, running⟩ := service
      cases request <;> cases held <;> rfl
  | flush => rfl
  | stop =>
    obtain ⟨router, queue, alarms, held, alarmsSet, now, published, feed, _, running⟩ := service
    cases held <;> rfl

theorem handleNext_with_replies (world : Surroundings) (replies : List Reply) :
    ∃ answered, (service.handleNext world).1.replies = answered ++ service.replies ∧
      { service with replies }.handleNext world =
        ({ (service.handleNext world).1 with replies := answered ++ replies },
          (service.handleNext world).2) := by
  cases hqueue : service.queue with
  | nil => simp only [handleNext, hqueue]; exact ⟨[], rfl, rfl⟩
  | cons message rest =>
    simp only [handleNext, hqueue]
    exact handle_with_replies { service with queue := rest } world message replies

theorem act_with_replies (action : Action) (replies : List Reply) :
    ∃ answered, (service.act action).replies = answered ++ service.replies ∧
      { service with replies }.act action =
        { service.act action with replies := answered ++ replies } := by
  cases action with
  | handle world =>
    obtain ⟨answered, hreplies, heq⟩ := service.handleNext_with_replies world replies
    exact ⟨answered, hreplies, congrArg Prod.fst heq⟩
  | enqueue message =>
    refine ⟨[], ?_⟩
    simp only [act_enqueue]
    split <;> exact ⟨rfl, rfl⟩
  | pass time => exact ⟨[], rfl, rfl⟩
  | ring number =>
    refine ⟨[], ?_⟩
    simp only [act, ring]
    cases service.alarms.find? (·.number = number) with
    | none => exact ⟨rfl, rfl⟩
    | some alarm => dsimp only; split <;> exact ⟨rfl, rfl⟩

/-- **What callers were told is of no account for what follows.** -/
theorem replay_with_replies (actions : List Action) (replies : List Reply) :
    ∃ answered, (service.replay actions).replies = answered ++ service.replies ∧
      { service with replies }.replay actions =
        { service.replay actions with replies := answered ++ replies } := by
  induction actions generalizing service replies with
  | nil => exact ⟨[], rfl, rfl⟩
  | cons action actions ih =>
    obtain ⟨first, hfirst, hact⟩ := service.act_with_replies action replies
    obtain ⟨answered, hanswered, hrest⟩ := ih (service.act action) (first ++ replies)
    refine ⟨answered ++ first, ?_, ?_⟩
    · rw [replay, List.foldl_cons, ← replay, hanswered, hfirst, List.append_assoc]
    · rw [replay, List.foldl_cons, ← replay, hact, hrest, List.append_assoc]
      rfl

end

/-! ## A message that has to wait -/

/-- The other service is as `service`, but `message` waits in it for its turn, behind `count`
    messages, unless the service has stopped before. -/
inductive Postpones (message : Message) (service : Service) : Nat → Service → Prop
  | waits {ahead behind : List Message} (hrunning : service.running = true)
      (hqueue : service.queue = ahead ++ behind) :
      Postpones message service ahead.length { service with queue := ahead ++ message :: behind }
  | lost {count : Nat} (hrunning : service.running = false) (hqueue : service.queue = []) :
      Postpones message service count service

section
variable {message : Message} {count : Nat} {other : Service} {action : Action}

theorem postpones_enqueue (h : service.running = false → service.queue = [])
    (message : Message) :
    Postpones message service service.queue.length (service.act (.enqueue message)) := by
  rw [act_enqueue]
  split
  · next hrunning => exact .waits hrunning (List.append_nil _).symm
  · next hstopped =>
    have hrunning : service.running = false := by simpa using hstopped
    exact .lost hrunning (h hrunning)

/-- What callers, time and alarms do adds to the queue, whatever is in it. -/
theorem act_with_queue (service : Service) (h : action.isHandle = false) (queue : List Message) :
    { service with queue }.act action =
        { service.act action with queue := queue ++ (service.arrival? action).toList } ∧
      (service.act action).queue = service.queue ++ (service.arrival? action).toList ∧
      (service.act action).running = service.running := by
  cases action with
  | handle world => cases h
  | enqueue message =>
    simp only [act_enqueue, arrival?]
    split <;> simp
  | pass time => simp [act, arrival?, advance]
  | ring number =>
    simp only [act, ring, arrival?]
    cases service.alarms.find? (·.number = number) with
    | none => simp
    | some alarm =>
      by_cases hdue : alarm.due ≤ service.now
      · by_cases hrunning : service.running <;> simp [hdue, hrunning, Option.filter]
      · simp [hdue, Option.filter]

theorem Postpones.act (h : service.Postpones message count other)
    (hother : action.isHandle = false) :
    (service.act action).Postpones message count (other.act action) := by
  cases h with
  | @waits ahead behind hrunning hqueue =>
    obtain ⟨hact, hqueued, hruns⟩ := service.act_with_queue hother (ahead ++ message :: behind)
    rw [hact, List.append_assoc, List.cons_append]
    refine .waits (hruns.trans hrunning) ?_
    rw [hqueued, hqueue, List.append_assoc]
  | lost hrunning hqueue =>
    obtain ⟨-, hqueued, hruns⟩ := service.act_with_queue hother []
    rw [hqueue, service.arrival?_of_stopped hrunning] at hqueued
    exact .lost (hruns.trans hrunning) hqueued

/-- Until it is the turn of the message that waits, the headset receives the same commands. -/
theorem Postpones.handleNext (h : service.Postpones message (count + 1) other)
    (world : Surroundings) :
    (service.handleNext world).1.Postpones message count (other.handleNext world).1 ∧
      (other.handleNext world).2 = (service.handleNext world).2 := by
  generalize hcount : count + 1 = turn at h
  cases h with
  | @waits ahead behind hrunning hqueue =>
    obtain ⟨first, ahead, rfl⟩ := List.exists_cons_of_length_eq_add_one hcount.symm
    obtain rfl : count = ahead.length := Nat.succ.inj hcount
    have hmine : service.handleNext world =
        { service with queue := ahead ++ behind }.handle world first := by
      rw [Service.handleNext, hqueue]; rfl
    have htheirs : { service with queue := first :: ahead ++ message :: behind }.handleNext world =
        { service with queue := ahead ++ message :: behind }.handle world first := rfl
    rw [hmine, htheirs]
    by_cases hstop : first = .stop
    · subst hstop
      have hstopped (queue : List Message) :
          { service with queue }.handle world .stop = (service.stop, []) :=
        congrArg (·, []) (service.stop_with_queue queue)
      rw [hstopped, hstopped]
      exact ⟨.lost rfl rfl, rfl⟩
    · have hruns := (service.handle_of_ne_stop hstop world).2.trans hrunning
      rw [service.handle_with_queue world hstop (ahead ++ behind),
        service.handle_with_queue world hstop (ahead ++ message :: behind)]
      exact ⟨@waits message { (service.handle world first).1 with queue := ahead ++ behind } ahead
        behind hruns rfl, rfl⟩
  | lost hrunning hqueue =>
    have hidle : service.handleNext world = (service, []) := by rw [Service.handleNext, hqueue]
    rw [hidle]
    exact ⟨.lost hrunning hqueue, rfl⟩

/-- **A message that waits for its turn changes nothing.** -/
theorem postpones_replay {actions : List Action}
    (h : service.Postpones message (count + actions.countP (·.isHandle)) other) :
    (service.replay actions).Postpones message count (other.replay actions) := by
  induction actions generalizing service other with
  | nil => exact h
  | cons action actions ih =>
    refine @ih (service.act action) (other.act action) ?_
    cases action with
    | handle world =>
      rw [List.countP_cons_of_pos rfl, ← Nat.add_assoc] at h
      exact (h.handleNext world).1
    | _ =>
      rw [List.countP_cons_of_neg (by simp [Action.isHandle])] at h
      exact h.act rfl

/-- The turn of a route that is refused. -/
theorem Postpones.handleNext_of_unknown (h : service.Postpones (.force route) 0 other)
    (hdevice : route.device? = some device)
    (hunknown : world.directory.contains device = false) :
    other.handleNext world = ({ service with
      replies := (if service.running then [.forced (some (.unknownDevice device))] else []) ++
        service.replies }, []) := by
  generalize hcount : 0 = turn at h
  cases h with
  | @waits ahead behind hrunning hqueue =>
    obtain rfl : ahead = [] := List.length_eq_zero_iff.1 hcount.symm
    have htheirs : { service with queue := [] ++ Message.force route :: behind }.handleNext world =
        { service with queue := behind }.handle world (.force route) := rfl
    rw [htheirs, handle_of_unknown hdevice hunknown, if_pos hrunning, ← List.nil_append behind,
      ← hqueue]
    rfl
  | lost hrunning hqueue =>
    have hidle : service.handleNext world = (service, []) := by rw [Service.handleNext, hqueue]
    rw [hidle, if_neg (by simp [hrunning]), List.nil_append]

end

/-- Nobody notices that a message waits. -/
theorem waiting_unnoticed (h : service.running = false → service.queue = []) (message : Message)
    {meanwhile : List Action}
    (hwaits : meanwhile.countP (·.isHandle) < service.queue.length) (world : Surroundings) :
    ((service.replay (.enqueue message :: meanwhile)).handleNext world).2 =
      ((service.replay meanwhile).handleNext world).2 := by
  obtain ⟨count, hcount⟩ := Nat.exists_eq_add_of_lt hwaits
  have hlength : service.queue.length = count + 1 + meanwhile.countP (·.isHandle) := by omega
  exact ((postpones_replay (hlength ▸ postpones_enqueue h message)).handleNext world).2

/-- **Nobody but the caller notices that a route is refused.** -/
theorem refused_unnoticed (h : service.running = false → service.queue = [])
    (hdevice : route.device? = some device) (hunknown : world.directory.contains device = false)
    {meanwhile : List Action}
    (hturn : meanwhile.countP (·.isHandle) = service.queue.length) (later : List Action) :
    let unasked := service.replay meanwhile
    let asked := service.replay (.enqueue (.force route) :: meanwhile ++ [.handle world])
    let told : List Reply :=
      if unasked.running then [.forced (some (.unknownDevice device))] else []
    ∃ answered, (unasked.replay later).replies = answered ++ unasked.replies ∧
      asked.replay later =
        { unasked.replay later with replies := answered ++ (told ++ unasked.replies) } ∧
      ∀ world, ((asked.replay later).handleNext world).2 =
        ((unasked.replay later).handleNext world).2 := by
  intro unasked asked told
  have hwaits := postpones_enqueue h (.force route)
  rw [← hturn, ← Nat.zero_add (List.countP _ _)] at hwaits
  have hasked : asked = { unasked with replies := told ++ unasked.replies } := by
    have hlast := (postpones_replay hwaits).handleNext_of_unknown hdevice hunknown
    rw [show asked = _ from service.replay_append (.enqueue (.force route) :: meanwhile) _]
    exact congrArg Prod.fst hlast
  obtain ⟨answered, hreplies, hrest⟩ := unasked.replay_with_replies later (told ++ unasked.replies)
  refine ⟨answered, hreplies, hasked ▸ hrest, fun world => ?_⟩
  obtain ⟨_, -, hnext⟩ := (unasked.replay later).handleNext_with_replies world
    (answered ++ (told ++ unasked.replies))
  rw [hasked, hrest, hnext]

/-! ## Routers and services -/

/-- To a service that shows the route, an expiry that does nothing to its router does nothing. -/
theorem handle_stale {kind : TimerKind} {generation : UInt64}
    (hpublished : service.published = service.router.route)
    (hprocess : service.router.process world (.expired kind generation) =
      (service.router,
        { machine := service.router.machine
          transition := .start (.expired kind) service.router.route })) :
    service.handle world (.event (.expired kind generation)) =
      ({ service with
          feed := service.feed.publish (.start (.expired kind) service.router.route) }, []) := by
  simp only [handle, handleEvent, hprocess, Transition.start, obey, publishRoute, ← hpublished]

theorem router_replay_start (timeouts : Timeouts) (inputs : List Input) (actions : List Action) :
    let start := Service.start ((Router.new timeouts).run inputs)
    (start.replay actions).router = (Router.new timeouts).run (inputs ++ start.inputs actions) := by
  intro start
  rw [router_replay, Router.run_append]
  rfl

theorem published_replay_start (router : Router) (actions : List Action) :
    let service := (Service.start router).replay actions
    service.published = service.router.route :=
  (serial_replay ⟨inOrder_start router, shows_start router⟩ actions).shows.published

/-- After a route is entered, the expiries of the timers of before do nothing to the service. -/
theorem handleNext_after_entry {timeouts : Timeouts} {inputs : List Input} {actions : List Action}
    (hcovers : world.directory.Covers route) {rest : List Message} {later : List Action} :
    let initial := Router.new timeouts
    let start := Service.start (initial.run inputs)
    let service := start.replay actions
    let taken := inputs ++ start.inputs actions
    let after := (service.handleNext world).1
    service.queue = .force route :: rest →
    (initial.armed (taken ++ .force world.directory route :: after.inputs later)).length <
      UInt64.size →
    let last := after.replay later
    ∀ earlier ∈ initial.armed taken, ∀ world kind more,
      last.queue = .event (.expired kind earlier.generation) :: more →
      last.handleNext world = ({ last with
        queue := more
        feed := last.feed.publish (.start (.expired kind) last.router.route) }, []) := by
  intro initial start service taken after hqueue hroom last earlier hearlier world' kind more hmore
  have hlast : last = start.replay (actions ++ .handle world :: later) := by
    rw [replay_append]
    rfl
  have hinputs : inputs ++ start.inputs (actions ++ .handle world :: later) =
      taken ++ .force world.directory route :: after.inputs later := by
    have hinput : service.input? (.handle world) = some (.force world.directory route) := by
      simp [input?, hqueue, Message.input?]
    rw [inputs_append, ← List.append_assoc, Service.inputs, hinput]
    rfl
  have hrouter : last.router =
      initial.run (taken ++ .force world.directory route :: after.inputs later) := by
    rw [hlast, ← hinputs]
    exact router_replay_start timeouts inputs _
  have hpublished : last.published = last.router.route := by
    rw [hlast]
    exact published_replay_start _ _
  have hprocess := Router.process_after_entry hcovers hroom hearlier world' kind
  rw [← hrouter] at hprocess
  rw [handleNext, hmore]
  exact handle_stale hpublished hprocess

/-- **A route is entered from outside as a whole, or not at all.**  By every router that can be
    reached, a route is refused exactly if it is for a device that the directory does not list,
    and then nothing is changed.  Otherwise the route is entered, nobody is notified, a timer comes
    with it exactly if the route awaits confirmation, for the first attempt and with a new
    generation, and while the generation counter does not run over, no timer of before is acted on
    any more.  Every service that can be reached answers its caller, and does with its alarm and
    the route that it shows what goes with that, at once or not at all; the headset receives no
    command and no transition is published.  A caller whose route is refused leaves no other trace
    in the service: what happens until it is the caller's turn, and ever after, is what would have
    happened if the caller had not asked. -/
theorem atomic_entry (timeouts : Timeouts) (inputs : List Input) (actions : List Action)
    (world : Surroundings) (route : Route) :
    let initial := Router.new timeouts
    let router := initial.run inputs
    let generation := router.machine.generation
    let start := Service.start router
    let service := start.replay actions
    let taken := inputs ++ start.inputs actions
    (match router.force world.directory route with
      | .error fault =>
        (∃ device, route.device? = some device ∧ world.directory.contains device = false ∧
          fault = .unknownDevice device) ∧
        router.take (.force world.directory route) = router
      | .ok (after, request) =>
        (∀ device, route.device? = some device → world.directory.contains device = true) ∧
        router.take (.force world.directory route) = after ∧
        after.notifier = router.notifier ∧
        (after.machine, request) =
          (match route with
            | .connecting device =>
              ({ router.machine with
                  route, pending := some ⟨generation + 1, .confirmation, device, 0⟩
                  generation := generation + 1 },
                some ⟨.confirmation, generation + 1, timeouts.confirmation⟩)
            | .off | .connected _ => ({ router.machine with route, pending := none }, none)) ∧
        ∀ later,
          (initial.armed (inputs ++ .force world.directory route :: later)).length < UInt64.size →
          let last := after.run later
          ∀ earlier ∈ initial.armed inputs, ∀ world kind,
            last.process world (.expired kind earlier.generation) =
              (last, { machine := last.machine, transition := .start (.expired kind) last.route }))
      ∧
    (∀ rest, service.queue = .force route :: rest →
      let after := (service.handleNext world).1
      (service.handleNext world).2 = [] ∧
      match service.router.force world.directory route with
      | .error fault =>
        after = { service with queue := rest, replies := .forced (some fault) :: service.replies }
      | .ok (router, request) =>
        after = { service with
          queue := rest
          router := router
          alarms := request.toList.map fun request =>
            ⟨service.alarmsSet, request, service.now + request.delay.waitMillis⟩
          held := request.map fun _ => service.alarmsSet
          alarmsSet := service.alarmsSet + request.toList.length
          published := route
          replies := .forced none :: service.replies } ∧
        ∀ later, (initial.armed (taken ++
            .force world.directory route :: after.inputs later)).length < UInt64.size →
          let last := after.replay later
          ∀ earlier ∈ initial.armed taken, ∀ world kind more,
            last.queue = .event (.expired kind earlier.generation) :: more →
            last.handleNext world = ({ last with
              queue := more
              feed := last.feed.publish (.start (.expired kind) last.router.route) }, [])) ∧
    ∀ device, route.device? = some device → world.directory.contains device = false →
      (∀ meanwhile, meanwhile.countP (·.isHandle) < service.queue.length → ∀ world,
        ((service.replay (.enqueue (.force route) :: meanwhile)).handleNext world).2 =
          ((service.replay meanwhile).handleNext world).2) ∧
      ∀ meanwhile later, meanwhile.countP (·.isHandle) = service.queue.length →
        let unasked := service.replay meanwhile
        let asked := service.replay (.enqueue (.force route) :: meanwhile ++ [.handle world])
        let told : List Reply :=
          if unasked.running then [.forced (some (.unknownDevice device))] else []
        ∃ answered, (unasked.replay later).replies = answered ++ unasked.replies ∧
          asked.replay later =
            { unasked.replay later with replies := answered ++ (told ++ unasked.replies) } ∧
          ∀ world, ((asked.replay later).handleNext world).2 =
            ((unasked.replay later).handleNext world).2 := by
  intro initial router generation start service taken
  have htimeouts : router.machine.timeouts = timeouts :=
    (Router.accounted_run timeouts inputs).timeouts_eq
  have hstopped : service.running = false → service.queue = [] := fun hstopped =>
    (serial_replay ⟨inOrder_start router, shows_start router⟩ actions).order.queue_eq hstopped
  refine ⟨?_, fun rest hqueue => ?_, fun device hdevice hunknown =>
    ⟨fun meanwhile hcount world => ?_, fun meanwhile later hturn =>
      refused_unnoticed hstopped hdevice hunknown hturn later⟩⟩
  · rcases world.directory.covers_or_unknown route with hcovers | ⟨device, hdevice, hunknown⟩
    · rw [Router.force_of_covers hcovers]
      refine ⟨hcovers, Router.take_of_covers hcovers, rfl, ?_, fun later hroom => ?_⟩
      · rw [← htimeouts]
        exact router.machine.enter_eq route
      · intro last earlier hearlier world' kind
        have hlast : last = initial.run (inputs ++ .force world.directory route :: later) := by
          rw [Router.run_append, Router.run, List.foldl_cons, Router.take_of_covers hcovers]
          rfl
        rw [hlast]
        exact Router.process_after_entry hcovers hroom hearlier world' kind
    · rw [Router.force_of_unknown hdevice hunknown]
      exact ⟨⟨device, hdevice, hunknown, rfl⟩,
        router.take_of_refused (Router.force_of_unknown hdevice hunknown)⟩
  · intro after
    have hnext : service.handleNext world =
        { service with queue := rest }.handle world (.force route) := by
      rw [handleNext, hqueue]
    rcases world.directory.covers_or_unknown route with hcovers | ⟨device, hdevice, hunknown⟩
    · have halarmed : Alarmed { service with queue := rest } ([] ++ start.armings actions) :=
        (alarmed_replay (alarmed_of_nil rfl) actions).congr rfl rfl rfl
      have hentered := hnext.trans (halarmed.handle_of_covers hcovers)
      rw [Router.force_of_covers hcovers]
      refine ⟨congrArg Prod.snd hentered, congrArg Prod.fst hentered, fun later hroom => ?_⟩
      exact handleNext_after_entry hcovers hqueue hroom
    · have hrefused := hnext.trans (handle_of_unknown hdevice hunknown)
      rw [Router.force_of_unknown hdevice hunknown]
      exact ⟨congrArg Prod.snd hrefused, congrArg Prod.fst hrefused⟩
  · exact waiting_unnoticed hstopped (.force route) hcount world

/-- While a device has to confirm, a caller asks in vain for the route of a device that is not
    connected, and its time runs on; then the route of another device is entered. -/
theorem atomic_entry_overtaken :
    let world := (Stack.ofDevices [⟨"A"⟩, ⟨"B"⟩]).surroundings
    let timeouts := Timeouts.of (.ofMillis 5000) (.ofMillis 500) 1
    let start := Service.start (.new timeouts)
    let connecting := [.enqueue (.event (.connect none)), .handle world]
    let unlisted : Route := .connected ⟨"C"⟩
    let asked := (start.replay connecting).replay
      (.enqueue (.force unlisted) :: [.pass 4000] ++ [.handle world])
    let overtaken : Route := .connecting ⟨"B"⟩
    let actions := connecting ++ [.enqueue (.force overtaken)]
    let service := start.replay actions
    let after := (service.handleNext world).1
    let later := [.enqueue (.event (.expired .confirmation 1))]
    let last := after.replay later
    unlisted.device? = some ⟨"C"⟩ ∧ world.directory.contains ⟨"C"⟩ = false ∧
      (asked.replay [.pass 5000, .ring 0]).queue = [.event (.expired .confirmation 1)] ∧
      service.router.route = .connecting ⟨"A"⟩ ∧ service.queue = [.force overtaken] ∧
      after.alarms = [⟨1, ⟨.confirmation, 2, .ofMillis 5000⟩, 5000⟩] ∧
      ((Router.new timeouts).armed (start.inputs actions ++
        .force world.directory overtaken :: after.inputs later)).length < UInt64.size ∧
      (last.handleNext world).2 = [] ∧ (last.handleNext world).1.router = last.router := by
  intro world timeouts start connecting unlisted asked overtaken actions service after later last
  have hunknown : world.directory.contains ⟨"C"⟩ = false := by decide
  have hrings : (((start.replay connecting).replay [.pass 4000]).replay
      [.pass 5000, .ring 0]).queue = [.event (.expired .confirmation 1)] := by decide
  have hqueue : service.queue = [.force overtaken] := by decide
  have hroom : ((Router.new timeouts).armed (start.inputs actions ++
      .force world.directory overtaken :: after.inputs later)).length < UInt64.size := by decide
  have hearlier : (⟨.confirmation, 1, .ofMillis 5000⟩ : TimerRequest) ∈
      (Router.new timeouts).armed (start.inputs actions) := by decide
  have hmore : last.queue = [.event (.expired .confirmation 1)] := by decide
  obtain ⟨-, -, hrefused⟩ := atomic_entry timeouts [] connecting world unlisted
  obtain ⟨-, hunasked⟩ := hrefused ⟨"C"⟩ rfl hunknown
  obtain ⟨_, -, hasked, -⟩ := hunasked [.pass 4000] [.pass 5000, .ring 0] (by decide)
  obtain ⟨-, hentered, -⟩ := atomic_entry timeouts [] actions world overtaken
  obtain ⟨-, -, hdead⟩ := hentered [] hqueue
  have hnext : last.handleNext world = _ :=
    hdead later hroom _ hearlier world .confirmation [] hmore
  exact ⟨rfl, hunknown, (congrArg Service.queue hasked).trans hrings, by decide, hqueue,
    by decide, hroom, congrArg Prod.snd hnext, congrArg (·.1.router) hnext⟩

end Service

end CallAudio
