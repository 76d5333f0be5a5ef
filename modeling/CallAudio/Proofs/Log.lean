/-
  What the headset and the listeners get during a run.

  * `Moment.deliveries`: what an input has the listener told;
  * `Moment.calls_after`, `Moment.listener_after`: what an input does to the notifier;
  * `Router.calls_run`, `Router.listener_run`, `Router.lock_run`: the notifier after a run;
  * `Router.faithful_records`: the transitions of a run tell all that headset and listeners got.
-/
import CallAudio.Proofs.Record
import CallAudio.Proofs.Run

namespace CallAudio

/-- The listener that an input registers. -/
def Input.registered? : Input → Option Nat
  | .listen listener => some listener
  | .event _ _ | .force _ _ => none

/-- The listener that was registered last. -/
def lastRegistered? (inputs : List Input) : Option Nat :=
  (inputs.filterMap (·.registered?)).getLast?

/-- A route that is entered from outside is told to nobody. -/
theorem Router.notifier_force (router : Router) (directory : Directory) (route : Route) :
    (router.take (.force directory route)).notifier = router.notifier := by
  cases h : router.machine.force directory route with
  | error fault => simp [Router.take, Router.force, h, Except.map]
  | ok result => simp [Router.take, Router.force, h, Except.map]

namespace Moment

/-- What the registered listener is told, by the record of the event. -/
def deliveries (moment : Moment) : List Call :=
  moment.transition?.elim [] fun transition =>
    moment.before.notifier.listener?.toList.flatMap fun listener =>
      transition.notices.map (⟨listener, ·, .held⟩)

variable (moment : Moment)

/-! ## What an input does to the notifier -/

theorem calls_after :
    moment.after.notifier.calls = moment.before.notifier.calls ++ moment.deliveries := by
  obtain ⟨router, input⟩ := moment
  cases input with
  | event world event => exact Notifier.dispatch_calls _ _
  | force directory route =>
    have h := congrArg Notifier.calls (router.notifier_force directory route)
    exact h.trans (List.append_nil _).symm
  | listen listener => exact (List.append_nil _).symm

theorem listener_after :
    moment.after.notifier.listener? =
      (moment.input.registered? <|> moment.before.notifier.listener?) := by
  obtain ⟨router, input⟩ := moment
  cases input with
  | event world event => exact Notifier.dispatch_listener _ _
  | force directory route => exact congrArg _ (router.notifier_force directory route)
  | listen listener => rfl

variable {moment} in
theorem lock_after (h : moment.before.notifier.lock = .free) :
    moment.after.notifier.lock = .free := by
  obtain ⟨router, input⟩ := moment
  cases input with
  | event world event => exact Notifier.dispatch_lock h _
  | force directory route =>
    exact (congrArg Notifier.lock (router.notifier_force directory route)).trans h
  | listen listener => exact h

/-- The headset receives the command of the record. -/
theorem issued_eq : moment.issued = moment.transition?.elim [] (·.command.toList) := by
  obtain ⟨router, input⟩ := moment
  cases input with
  | event world event => exact router.machine.process_issued world event
  | force directory route => rfl
  | listen listener => rfl

end Moment

namespace Router

/-! ## Runs -/

theorem commands_eq (router : Router) (inputs : List Input) :
    router.commands inputs = (router.transitions inputs).flatMap (·.command.toList) := by
  rw [commands, transitions]
  induction router.moments inputs with
  | nil => rfl
  | cons moment moments ih =>
    rw [List.flatMap_cons, ih, moment.issued_eq, List.filterMap_cons]
    cases moment.transition? <;> rfl

theorem calls_run (router : Router) (inputs : List Input) :
    (router.run inputs).notifier.calls =
      router.notifier.calls ++ (router.moments inputs).flatMap (·.deliveries) := by
  induction inputs generalizing router with
  | nil => simp [run, moments]
  | cons input inputs ih =>
    have hstep := Moment.calls_after ⟨router, input⟩
    have hrest := ih (router.take input)
    rw [moments, List.flatMap_cons, ← List.append_assoc, ← hstep]
    exact hrest

theorem lock_run {router : Router} (h : router.notifier.lock = .free) (inputs : List Input) :
    (router.run inputs).notifier.lock = .free := by
  induction inputs generalizing router with
  | nil => exact h
  | cons input inputs ih =>
    have hstep : (router.take input).notifier.lock = .free := @Moment.lock_after ⟨_, _⟩ h
    exact ih hstep

/-- The listener after a run is the one registered last. -/
theorem listener_run (timeouts : Timeouts) (inputs : List Input) :
    ((Router.new timeouts).run inputs).notifier.listener? = lastRegistered? inputs := by
  induction inputs using List.reverseRecOn with
  | nil => rfl
  | append_singleton inputs input ih =>
    have hstep := Moment.listener_after ⟨(Router.new timeouts).run inputs, input⟩
    rw [ih] at hstep
    rw [run_append, lastRegistered?, List.filterMap_append]
    refine hstep.trans ?_
    cases h : input.registered? <;> simp [h, lastRegistered?]

/-- **The records of a run are faithful.**  To every router that can be reached, whatever the
    stack answers, an event leads to at most one command; audio is opened only to a connected
    device that did not lose it just then, and closed exactly on request while it is not off;
    and the record says so, names the event, and goes from the route before to the route
    after.  Over a run the headset receives the commands of the transitions, and each of their
    notices is told once, in order and under the lock, to the listener registered last before
    the event; a route that is entered from outside leads to neither. -/
theorem faithful_records (timeouts : Timeouts) (inputs : List Input) :
    let start := Router.new timeouts
    let router := start.run inputs
    (∀ world event,
      let after := (router.process world event).1
      let turn := (router.process world event).2
      turn.issued.length ≤ 1 ∧
      (∀ device, .connectAudio device ∈ turn.issued →
        world.directory.contains device = true ∧
          event ≠ .deviceLost device ∧ event ≠ .audioLost device) ∧
      (.disconnectAudio ∈ turn.issued ↔ event = .disconnect ∧ router.route ≠ .off) ∧
      turn.issued = turn.transition.command.toList ∧
      turn.transition.event = event.kind ∧
      turn.transition.source = router.route ∧
      turn.transition.target = after.route ∧
      after.notifier.calls = router.notifier.calls ++
        (lastRegistered? inputs).toList.flatMap fun listener =>
          turn.transition.notices.map (⟨listener, ·, .held⟩)) ∧
    (∀ directory route,
      (router.take (.force directory route)).notifier = router.notifier ∧
        start.commands (inputs ++ [.force directory route]) = start.commands inputs) ∧
    start.commands inputs = (start.transitions inputs).flatMap (·.command.toList) ∧
    router.notifier.calls = (start.moments inputs).flatMap (·.deliveries) ∧
    router.notifier.listener? = lastRegistered? inputs ∧
    router.notifier.lock = .free := by
  intro start router
  have hlistener : router.notifier.listener? = lastRegistered? inputs :=
    listener_run timeouts inputs
  refine ⟨fun world event => ?_, fun directory route => ⟨notifier_force .., ?_⟩,
    commands_eq start inputs, calls_run start inputs, hlistener, lock_run rfl inputs⟩
  · intro after turn
    obtain ⟨hevent, hsource, htarget⟩ := router.machine.process_record world event
    have hissued : turn.issued = turn.transition.command.toList :=
      router.machine.process_issued world event
    have hcalls := Moment.calls_after ⟨router, .event world event⟩
    rw [Moment.deliveries, hlistener] at hcalls
    have hordered : turn.Ordered world router.route event :=
      router.machine.process_ordered world event
    refine ⟨hordered.length_issued_le, fun device hdevice => ?_, hordered.disconnect_iff,
      hissued, hevent, hsource, htarget, hcalls⟩
    obtain ⟨hlisted, hkept⟩ := hordered.connected hdevice
    exact ⟨hlisted, fun h => hkept (.inl h), fun h => hkept (.inr h)⟩
  · rw [commands, moments_append, List.flatMap_append]
    exact List.append_nil _

end Router

end CallAudio
