/-
  Runs of a router.

  A run is any list of inputs: events, while each of which the stack may answer what it
  likes, routes that are entered from outside, and listeners that are registered.

  * `Input`, `Router.take`, `Router.run`: runs; `Unforced`: those of events and listeners only;
  * `Moment`, `Router.moments`: the inputs of a run, each with the router before it, from which
    all that is seen of a run is read off: its transitions, the commands that the headset
    received and the timers that were armed;
  * `Machine.Accounted`: the outstanding timer and the generation counter of a machine, told
    from the timers that were armed;
  * `Router.accounted_run`: after every run the machine is accounted for.
-/
import CallAudio.Proofs.Pending
import CallAudio.Router
import CallAudio.Stack.Memory
import Mathlib.Data.List.Induction
import Mathlib.Data.List.Nodup
import Mathlib.Data.List.Range

namespace CallAudio

/-- Something that is done with a router. -/
inductive Input where
  /-- It processes an event, while the stack answers as `world` does. -/
  | event (world : Surroundings) (event : Event)
  /-- Its machine is put into `route`. -/
  | force (directory : Directory) (route : Route)
  /-- A listener is registered. -/
  | listen (listener : Nat)

/-- No route is entered from outside. -/
def Unforced (inputs : List Input) : Prop :=
  ∀ directory route, .force directory route ∉ inputs

/-- An input of a run, and the router that it is for. -/
structure Moment where
  /-- The router before the input. -/
  before : Router
  /-- The input. -/
  input : Input

namespace Router

/-- The router after an input.  A route that is refused changes nothing. -/
def take (router : Router) : Input → Router
  | .event world event => (router.process world event).1
  | .force directory route =>
    match router.force directory route with
    | .ok (router, _) => router
    | .error _ => router
  | .listen listener => router.register listener

/-- The router after all of `inputs`. -/
def run (router : Router) (inputs : List Input) : Router := inputs.foldl take router

/-- The moments of a run. -/
def moments (router : Router) : List Input → List Moment
  | [] => []
  | input :: inputs => ⟨router, input⟩ :: moments (router.take input) inputs

end Router

namespace Moment

/-- The router after the input. -/
def after (moment : Moment) : Router := moment.before.take moment.input

/-- The turn of an event. -/
def turn? (moment : Moment) : Option Turn :=
  match moment.input with
  | .event world event => some (moment.before.process world event).2
  | .force _ _ | .listen _ => none

/-- The record of an event. -/
def transition? (moment : Moment) : Option Transition := moment.turn?.map (·.transition)

/-- The commands that the headset received. -/
def issued (moment : Moment) : List Command := moment.turn?.elim [] (·.issued)

/-- What the machine's owner has to do with its timer. -/
def timer (moment : Moment) : TimerAction :=
  match moment.input with
  | .event world event => (moment.before.process world event).2.transition.timer
  | .force directory route =>
    match moment.before.force directory route with
    | .ok (_, some request) => .arm request
    | .ok (_, none) => .cancel
    | .error _ => .keep
  | .listen _ => .keep

/-- The timer that the machine's owner was told to arm. -/
def armed? (moment : Moment) : Option TimerRequest := moment.timer.armed?

end Moment

namespace Router

/-- The transitions of a run, in order. -/
def transitions (router : Router) (inputs : List Input) : List Transition :=
  (router.moments inputs).filterMap (·.transition?)

/-- The commands that the headset received during a run, in order. -/
def commands (router : Router) (inputs : List Input) : List Command :=
  (router.moments inputs).flatMap (·.issued)

/-- The timers that were armed during a run, in order. -/
def armed (router : Router) (inputs : List Input) : List TimerRequest :=
  (router.moments inputs).filterMap (·.armed?)

variable (router : Router) (inputs : List Input)

/-- A route that is refused changes nothing. -/
theorem take_of_refused {directory : Directory} {route : Route} {fault : Fault}
    (h : router.force directory route = .error fault) :
    router.take (.force directory route) = router := by
  simp [take, h]

theorem run_append (more : List Input) :
    router.run (inputs ++ more) = (router.run inputs).run more := by
  simp [run]

theorem moments_append (more : List Input) :
    router.moments (inputs ++ more) =
      router.moments inputs ++ (router.run inputs).moments more := by
  induction inputs generalizing router with
  | nil => rfl
  | cons input inputs ih => simp [moments, run, ih]

theorem transitions_append (more : List Input) :
    router.transitions (inputs ++ more) =
      router.transitions inputs ++ (router.run inputs).transitions more := by
  rw [transitions, moments_append, List.filterMap_append]; rfl

theorem armed_cons (input : Input) :
    router.armed (input :: inputs) =
      (Moment.armed? ⟨router, input⟩).toList ++ (router.take input).armed inputs := by
  rw [armed, moments, List.filterMap_cons]
  cases Moment.armed? ⟨router, input⟩ <;> rfl

theorem armed_append (more : List Input) :
    router.armed (inputs ++ more) = router.armed inputs ++ (router.run inputs).armed more := by
  rw [armed, moments_append, List.filterMap_append]; rfl

theorem armed_concat (input : Input) :
    router.armed (inputs ++ [input]) =
      router.armed inputs ++ (Moment.armed? ⟨router.run inputs, input⟩).toList := by
  rw [armed_append, armed_cons]; simp [armed, moments]

end Router

/-! ## Accounts of the timers -/

/-- What an input does to the machine and to the timer of its owner. -/
theorem Moment.change {moment : Moment} (h : moment.before.machine.Sound) :
    moment.after.machine = moment.before.machine ∧ moment.timer = .keep ∨
      moment.before.machine.Change moment.after.machine moment.armed? := by
  obtain ⟨router, input⟩ := moment
  cases input with
  | event world event =>
    rcases Machine.process_change h world event with ⟨hmachine, htimer, -⟩ | hchange
    · exact .inl ⟨hmachine, htimer⟩
    · exact .inr hchange
  | force directory route =>
    cases hforce : router.machine.force directory route with
    | error fault =>
      have h : router.force directory route = .error fault := by
        rw [Router.force, hforce]; rfl
      exact .inl (by simp [after, Router.take, timer, h])
    | ok result =>
      obtain ⟨machine, request⟩ := result
      have h : router.force directory route = .ok ({ router with machine }, request) := by
        rw [Router.force, hforce]; rfl
      have hchange := Machine.force_change hforce
      refine .inr ?_
      cases request <;>
        simpa [after, Router.take, armed?, timer, TimerAction.armed?, h] using hchange
  | listen listener => exact .inl ⟨rfl, rfl⟩

theorem Moment.armed?_of_keep {moment : Moment} (h : moment.timer = .keep) :
    moment.armed? = none := by
  rw [armed?, h]; rfl

/-- Every input keeps the route and the outstanding timer together. -/
theorem Moment.sound_after {moment : Moment} (h : moment.before.machine.Sound) :
    moment.after.machine.Sound := by
  rcases moment.change h with ⟨hmachine, -⟩ | hchange
  · exact hmachine ▸ h
  · exact hchange.sound

namespace Machine

/-- A machine accounts for the timers that were armed so far. -/
structure Accounted (timeouts : Timeouts) (machine : Machine) (armed : List TimerRequest) :
    Prop where
  /-- The route and the outstanding timer belong together. -/
  sound : machine.Sound
  /-- The timing parameters stay. -/
  timeouts_eq : machine.timeouts = timeouts
  /-- The counter shows how many timers were armed. -/
  counter : machine.generation = .ofNat armed.length
  /-- Every timer has the number that the counter showed then. -/
  numbered : armed.map (·.generation) =
    (List.range armed.length).map fun index => .ofNat (index + 1)
  /-- Every timer has the delay of its kind. -/
  delays : ∀ request ∈ armed, request.delay = timeouts.delay request.kind
  /-- The outstanding timer is the one armed last. -/
  last : ∀ {timer}, machine.pending = some timer →
    armed.getLast? = some (timer.request timeouts)

variable {timeouts : Timeouts} {machine after : Machine} {armed : List TimerRequest}

theorem accounted_initial : Accounted timeouts { timeouts } [] :=
  ⟨sound_initial timeouts, rfl, rfl, rfl, by simp, fun h => (by cases h)⟩

/-- A change accounts for the timer that it arms. -/
theorem Accounted.change {request : Option TimerRequest}
    (h : Accounted timeouts machine armed) (hchange : Change machine after request) :
    Accounted timeouts after (armed ++ request.toList) := by
  have hsound := hchange.sound
  have htimeouts := hchange.timeouts_eq.trans h.timeouts_eq
  cases hchange with
  | clear route hroute =>
    rw [Option.toList_none, List.append_nil]
    exact ⟨hsound, htimeouts, h.counter, h.numbered, h.delays, fun hp => (by cases hp)⟩
  | arm timer hnew =>
    rw [Option.toList_some]
    have hnext : machine.generation + 1 = .ofNat (armed.length + 1) := by
      rw [h.counter, UInt64.ofNat_add]; rfl
    refine ⟨hsound, htimeouts, ?_, ?_, ?_, ?_⟩
    · rw [List.length_append]; exact hnext
    · rw [List.map_append, h.numbered, List.length_append, List.length_singleton,
        List.range_succ, List.map_append]
      simp [PendingTimer.request, hnew, hnext]
    · intro request hrequest
      rcases List.mem_append.1 hrequest with hold | hlast
      · exact h.delays request hold
      · rw [List.mem_singleton.1 hlast, PendingTimer.request, h.timeouts_eq]
    · intro next hpending
      cases hpending
      rw [List.getLast?_concat, h.timeouts_eq]

end Machine

/-- After every input the machine accounts for the timer that was armed by it too. -/
theorem Moment.accounted_after {moment : Moment} {timeouts : Timeouts}
    {armed : List TimerRequest} (h : moment.before.machine.Accounted timeouts armed) :
    moment.after.machine.Accounted timeouts (armed ++ moment.armed?.toList) := by
  rcases moment.change h.sound with ⟨hmachine, htimer⟩ | hchange
  · rw [armed?_of_keep htimer, Option.toList_none, List.append_nil]
    exact hmachine ▸ h
  · exact h.change hchange

/-- **After every run the machine accounts for the timers that were armed.** -/
theorem Router.accounted_run (timeouts : Timeouts) (inputs : List Input) :
    ((Router.new timeouts).run inputs).machine.Accounted timeouts
      ((Router.new timeouts).armed inputs) := by
  induction inputs using List.reverseRecOn with
  | nil => exact Machine.accounted_initial
  | append_singleton inputs input ih =>
    rw [armed_concat, run_append]
    exact @Moment.accounted_after ⟨_, input⟩ _ _ ih

/-! ## The outstanding timer -/

namespace Machine

variable {timeouts : Timeouts} {machine : Machine} {armed : List TimerRequest}

theorem Sound.connecting_iff (h : machine.Sound) (device : Device) :
    machine.route = .connecting device ↔
      ∃ timer, machine.pending = some timer ∧ timer.kind = .confirmation ∧
        timer.device = device := by
  constructor
  · intro hroute
    obtain ⟨timer, hpending⟩ := Option.ne_none_iff_exists'.1 (h.awaited hroute)
    have htimer : timer.route = .connecting device := (h.route_eq hpending).symm.trans hroute
    refine ⟨timer, hpending, ?_⟩
    cases hkind : timer.kind <;> simp_all [PendingTimer.route]
  · rintro ⟨timer, hpending, hkind, rfl⟩
    exact h.route_confirmation hpending hkind

theorem Sound.pending_connected (h : machine.Sound) {device : Device}
    (hroute : machine.route = .connected device) : machine.pending = none := by
  cases hpending : machine.pending with
  | none => rfl
  | some timer =>
    have htimer : timer.route = .connected device := (h.route_eq hpending).symm.trans hroute
    cases hkind : timer.kind <;> simp_all [PendingTimer.route]

/-- While there is room in the counter, the timers are numbered from 1. -/
theorem Accounted.numbers (h : Accounted timeouts machine armed)
    (hroom : armed.length < UInt64.size) :
    armed.map (·.generation.toNat) = List.range' 1 armed.length := by
  have hmap : armed.map (·.generation.toNat) = (armed.map (·.generation)).map UInt64.toNat := by
    rw [List.map_map]; rfl
  rw [hmap, h.numbered, List.map_map, List.range'_eq_map_range]
  refine List.map_congr_left fun index hindex => ?_
  have hlt : index + 1 < UInt64.size :=
    Nat.lt_of_le_of_lt (List.mem_range.1 hindex) hroom
  rw [Function.comp_apply, UInt64.toNat_ofNat_of_lt' hlt, Nat.add_comm]

/-- While there is room in the counter, no number is given twice. -/
theorem Accounted.nodup (h : Accounted timeouts machine armed)
    (hroom : armed.length < UInt64.size) : (armed.map (·.generation)).Nodup := by
  refine List.Nodup.of_map UInt64.toNat ?_
  have hmap : (armed.map (·.generation)).map UInt64.toNat =
      armed.map (·.generation.toNat) := List.map_map
  rw [hmap, h.numbers hroom]
  exact List.nodup_range' 1 Nat.one_pos

end Machine

/-- **The outstanding timer belongs to the route.**  After every run in which the generation
    counter does not run over:
    a timer for a confirmation is outstanding exactly while a device is connecting, and is for
    that device; a timer for a retry is outstanding only while audio is off; none is while a
    device is connected; the outstanding timer is the one armed last; the timers were numbered
    from 1 without gap or repetition, each with the delay of its kind; and the next call arms at
    most one. -/
theorem Router.outstanding_timer (timeouts : Timeouts) (inputs : List Input)
    (hroom : ((Router.new timeouts).armed inputs).length < UInt64.size) :
    let router := (Router.new timeouts).run inputs
    let machine := router.machine
    let armed := (Router.new timeouts).armed inputs
    (∀ device, machine.route = .connecting device ↔
      ∃ timer, machine.pending = some timer ∧ timer.kind = .confirmation ∧
        timer.device = device) ∧
    (∀ timer, machine.pending = some timer → timer.kind = .retry → machine.route = .off) ∧
    (∀ device, machine.route = .connected device → machine.pending = none) ∧
    (∀ timer, machine.pending = some timer → timer.generation = machine.generation ∧
      armed.getLast? = some ⟨timer.kind, timer.generation, timeouts.delay timer.kind⟩) ∧
    armed.map (·.generation.toNat) = List.range' 1 armed.length ∧
    (∀ request ∈ armed, request.delay =
      match request.kind with
      | .confirmation => timeouts.confirmation
      | .retry => timeouts.backoff) ∧
    ∀ input, let moment : Moment := ⟨router, input⟩
      (moment.armed? = none ∧ moment.after.machine.generation = machine.generation) ∨
      ∃ request, moment.armed? = some request ∧
        request.generation = machine.generation + 1 ∧
        moment.after.machine.generation = machine.generation + 1 := by
  intro router machine armed
  have haccounted := accounted_run timeouts inputs
  have hsound := haccounted.sound
  refine ⟨hsound.connecting_iff, fun _ => hsound.route_retry, fun _ => hsound.pending_connected,
    fun timer hpending => ⟨hsound.newest hpending, haccounted.last hpending⟩,
    haccounted.numbers hroom, fun request hrequest => ?_, fun input => ?_⟩
  · rw [haccounted.delays request hrequest]
    cases request.kind <;> rfl
  · intro moment
    rcases moment.change hsound with ⟨hmachine, htimer⟩ | hchange
    · exact .inl ⟨Moment.armed?_of_keep htimer, by rw [hmachine]⟩
    · generalize moment.after.machine = after at hchange ⊢
      generalize moment.armed? = request at hchange ⊢
      cases hchange with
      | clear => exact .inl ⟨rfl, rfl⟩
      | arm timer hnew => exact .inr ⟨_, rfl, hnew, rfl⟩

/-- A connection that is not confirmed and waits to be tried again. -/
theorem Router.outstanding_timer_unconfirmed :
    let router := Router.new (.of (.ofMillis 5000) (.ofMillis 500) 1)
    let world := (Stack.ofDevices [⟨"A"⟩]).surroundings
    let inputs := [.event world (.connect none), .event world (.expired .confirmation 1)]
    (router.armed inputs).length < UInt64.size ∧
      (router.run inputs).machine.pending = some ⟨2, .retry, ⟨"A"⟩, 1⟩ ∧
      (router.run inputs).route = .off ∧
      (router.armed inputs).map (·.generation.toNat) = [1, 2] := by
  intro router world inputs
  have hroom : (router.armed inputs).length < UInt64.size := by decide
  have hpending : (router.run inputs).machine.pending = some ⟨2, .retry, ⟨"A"⟩, 1⟩ := by decide
  have h := outstanding_timer _ inputs hroom
  exact ⟨hroom, hpending, h.2.1 _ hpending rfl, h.2.2.2.2.1⟩

end CallAudio
