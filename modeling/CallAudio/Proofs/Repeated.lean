/-
  Inputs that come again.

  A stack reports the same thing more than once, call control asks for it more than once, and
  between the two other devices come and go.

  * `Event.MetBy`, `Machine.Attains`: what a request or a report is about has come about;
  * `Machine.attains_of_process`, `Machine.process_attained`: so it is once it has been processed,
    and then it has nothing left to do when it comes again;
  * `Moment.isIncidental`: the inputs that do not concern the route;
  * `Moment.incidental_cases`: they change nothing, but for a retry that they may drop;
  * `Router.run_incidental`, `Router.outstanding?_run_incidental`: any number of them;
  * `Router.repeated_inputs`: what follows for a request, a report or an expiry that comes again.
-/
import CallAudio.Proofs.Spared

namespace CallAudio

/-- What a request or a report is about has come about on the route that it has led to.  A report
    that audio is on and a request to take it off bring it about themselves; a request for audio
    does so if it leads to the route of a device, and of the named one if it names one. -/
def Event.MetBy (route : Route) : Event → Prop
  | audioOn _ | disconnect => True
  | connect requested =>
    ∃ current, route.device? = some current ∧ (requested = none ∨ requested = some current)
  | deviceAdded _ | deviceLost _ | audioLost _ | expired _ _ => False

/-- The fault that a report shows, whatever the route is. -/
def Event.doubt? (directory : Directory) : Event → Option Fault
  | audioOn device =>
    if directory.contains device then none else some (.inconsistentReport device)
  | _ => none

namespace Machine

/-- What a request or a report is about is the case. -/
def Attains (machine : Machine) : Event → Prop
  | .audioOn device => machine.route = .connected device
  | .disconnect => machine.route = .off ∧ machine.pending = none
  | .connect requested =>
    ∃ current, machine.route.device? = some current ∧
      (requested = none ∨ requested = some current)
  | .deviceAdded _ | .deviceLost _ | .audioLost _ | .expired _ _ => False

/-- No retry is planned. -/
def Unplanned (machine : Machine) : Prop :=
  ∀ timer, machine.pending = some timer → timer.kind = .confirmation

variable {machine : Machine} {event : Event}

theorem Sound.unplanned_of_ne_off (h : machine.Sound) (hroute : machine.route ≠ .off) :
    machine.Unplanned := by
  intro timer hpending
  cases hkind : timer.kind with
  | confirmation => rfl
  | retry => exact absurd (h.route_retry hpending hkind) hroute

theorem Attains.unplanned (h : machine.Attains event) (hsound : machine.Sound) :
    machine.Unplanned := by
  cases event with
  | audioOn device => exact hsound.unplanned_of_ne_off (by rw [show machine.route = _ from h]; simp)
  | disconnect =>
    intro timer hpending
    rw [h.2] at hpending
    cases hpending
  | connect requested =>
    obtain ⟨current, hcurrent, -⟩ := h
    refine hsound.unplanned_of_ne_off fun hoff => ?_
    rw [hoff] at hcurrent
    cases hcurrent
  | _ => exact absurd h not_false

/-- **A request or a report that is met has brought about what it is about.** -/
theorem attains_of_process (world : Surroundings)
    (h : event.MetBy (machine.process world event).machine.route) :
    (machine.process world event).machine.Attains event := by
  obtain ⟨after, houtcome, heq⟩ := Turn.process_outcome world machine event
  rw [heq] at h ⊢
  cases event with
  | audioOn device =>
    cases houtcome with
    | confirmed => simp [Attains]
    | confirmedAgain hroute => simpa [Attains] using hroute
  | disconnect =>
    cases houtcome with
    | stayOff hroute => simpa [Attains] using hroute
    | disconnect => simp [Attains]
  | connect requested => exact h
  | _ => exact absurd h not_false

/-- **When it comes again it has nothing left to do.** -/
theorem process_attained (h : machine.Attains event) (world : Surroundings) :
    machine.process world event = {
      machine
      transition := { Transition.start event.kind machine.route with
        fault := event.doubt? world.directory } } := by
  obtain ⟨after, houtcome, heq⟩ := Turn.process_outcome world machine event
  rw [heq]
  cases event with
  | audioOn device =>
    cases houtcome with
    | confirmed hroute => exact absurd h hroute
    | confirmedAgain =>
      simp only [Turn.checkReport, Event.doubt?]
      split <;> rfl
  | disconnect =>
    cases houtcome with
    | stayOff =>
      have hkept :
          (Turn.start machine .disconnect).cancelTimer = Turn.start machine .disconnect := by
        simp only [Turn.cancelTimer, Turn.machine_start, h.2]
      exact congrArg Turn.finish hkept
    | disconnect hroute => exact absurd h.1 hroute
  | connect requested =>
    obtain ⟨current, hcurrent, hrequested⟩ := h
    cases houtcome with
    | routed => rfl
    | connect hroute | noTarget hroute | unknownTarget hroute =>
      rw [show machine.route = .off from hroute] at hcurrent
      cases hcurrent
    | switch hroute hne | unknownSwitch hroute hne =>
      -- the device that is named is the current one
      have hsame := Option.some.inj (hcurrent.symm.trans hroute)
      exact absurd ((Option.some.inj (hrequested.resolve_left (by simp))).trans hsame) hne
  | _ => exact absurd h not_false

end Machine

/-! ## Inputs that do not concern the route -/

namespace Moment

/-- Whether an input does not concern the route: a device comes; one that does not have the route
    goes, or loses audio; a timer expires that is not outstanding; a listener is registered. -/
def isIncidental (moment : Moment) : Bool :=
  match moment.input with
  | .event _ (.deviceAdded _) | .listen _ => true
  | .event _ (.deviceLost device) | .event _ (.audioLost device) =>
    !moment.before.route.isRoutedTo device
  | .event _ (.expired kind generation) =>
    (moment.before.machine.outstanding? kind generation).isNone
  | .event _ (.connect _) | .event _ .disconnect | .event _ (.audioOn _) | .force _ _ => false

variable {moment : Moment}

/-- **Such an input changes nothing, but for a retry that it may drop.** -/
theorem incidental_cases (h : moment.isIncidental = true) (hsound : moment.before.machine.Sound) :
    moment.issued = [] ∧
      (moment.after.machine = moment.before.machine ∨
        ¬ moment.before.machine.Unplanned ∧
          moment.after.machine = { moment.before.machine with pending := none }) := by
  obtain ⟨router, input⟩ := moment
  have hsound : router.machine.Sound := hsound
  have hunrouted {device : Device} (hother : (!router.route.isRoutedTo device) = true) :
      router.machine.route.isRoutedTo device = false := by
    rw [← Bool.not_eq_true']
    exact hother
  cases input with
  | listen listener => exact ⟨rfl, .inl rfl⟩
  | force directory route => cases h
  | event world event =>
    cases event with
    | deviceAdded device =>
      obtain ⟨hmachine, -, hissued⟩ := router.machine.process_added world device
      exact ⟨hissued, .inl hmachine⟩
    | audioLost device =>
      obtain ⟨hmachine, -, hissued⟩ := Machine.process_audioLost_other (hunrouted h) world
      exact ⟨hissued, .inl hmachine⟩
    | deviceLost device =>
      rcases Machine.process_deviceLost_other (hunrouted h) world with
        ⟨⟨hmachine, -, hissued⟩, -⟩ | ⟨⟨timer, hpending, rfl⟩, hmachine, hissued, -⟩
      · exact ⟨hissued, .inl hmachine⟩
      · refine ⟨hissued, .inr ⟨fun hunplanned => ?_, hmachine⟩⟩
        -- a device that has to confirm has the route
        have hoff := hsound.off_of_not_routed hpending (hunrouted h)
        rw [hsound.route_confirmation hpending (hunplanned timer hpending)] at hoff
        cases hoff
    | expired kind generation =>
      have hstale : isStale ⟨router, .event world (.expired kind generation)⟩ = true := h
      exact ⟨issued_of_isStale hstale, .inl (congrArg Router.machine (after_of_isStale hstale))⟩
    | connect | disconnect | audioOn => cases h

/-- Such an input does not make a timer outstanding. -/
theorem outstanding?_after_incidental (h : moment.isIncidental = true)
    (hsound : moment.before.machine.Sound) {kind : TimerKind} {generation : UInt64}
    (hnone : moment.before.machine.outstanding? kind generation = none) :
    moment.after.machine.outstanding? kind generation = none := by
  obtain ⟨-, hsame | ⟨-, hdropped⟩⟩ := moment.incidental_cases h hsound
  · rw [hsame]; exact hnone
  · rw [hdropped]; rfl

end Moment

namespace Router

variable {router : Router} {later : List Input}

theorem run_incidental (hsound : router.machine.Sound) (hunplanned : router.machine.Unplanned)
    (h : ∀ moment ∈ router.moments later, moment.isIncidental = true) :
    (router.run later).machine = router.machine ∧ router.commands later = [] := by
  induction later generalizing router with
  | nil => exact ⟨rfl, rfl⟩
  | cons input later ih =>
    set moment : Moment := ⟨router, input⟩
    obtain ⟨hissued, hsame | ⟨hplanned, -⟩⟩ :=
      moment.incidental_cases (h moment List.mem_cons_self) hsound
    · have hmachine : (router.take input).machine = router.machine := hsame
      obtain ⟨hrun, hcommands⟩ := ih (hmachine ▸ hsound) (hmachine ▸ hunplanned)
        fun other hmem => h other (.tail _ hmem)
      refine ⟨hrun.trans hmachine, ?_⟩
      rw [commands, moments, List.flatMap_cons, hissued]
      exact hcommands
    · exact absurd hunplanned hplanned

theorem outstanding?_run_incidental (hsound : router.machine.Sound)
    (h : ∀ moment ∈ router.moments later, moment.isIncidental = true) {kind : TimerKind}
    {generation : UInt64} (hnone : router.machine.outstanding? kind generation = none) :
    (router.run later).machine.outstanding? kind generation = none := by
  induction later generalizing router with
  | nil => exact hnone
  | cons input later ih =>
    set moment : Moment := ⟨router, input⟩
    have hincidental := h moment List.mem_cons_self
    exact ih (moment.sound_after hsound) (fun other hmem => h other (.tail _ hmem))
      (moment.outstanding?_after_incidental hincidental hsound hnone)

/-! ## What comes again -/

/-- Once the expiry of a timer has been processed, the timer is not outstanding. -/
theorem outstanding?_process_expired (hsound : router.machine.Sound) (world : Surroundings)
    (kind : TimerKind) (generation : UInt64) :
    (router.process world (.expired kind generation)).1.machine.outstanding? kind generation =
      none := by
  cases h : router.machine.outstanding? kind generation with
  | none => rw [process_stale h]; exact h
  | some timer =>
    obtain ⟨hpending, rfl, rfl⟩ := Machine.outstanding?_eq_some.1 h
    have hchange := (Machine.process_outstanding hsound hpending world).1
    exact hchange.outstanding?_eq_none hsound hpending timer.kind

theorem process_attained {event : Event} (h : router.machine.Attains event)
    (world : Surroundings) :
    router.process world event = (router, {
      machine := router.machine
      transition := { Transition.start event.kind router.route with
        fault := event.doubt? world.directory } }) := by
  rw [process, Machine.process_attained h world]
  exact congrArg (·, _) (congrArg (Router.mk router.machine) (Notifier.dispatch_nil _))

/-- **What comes again does nothing again.**  Take any router that can be reached, and a report
    that audio is on, a request to take it off, or a request for audio that leads to the route of
    a device, of the named one if it names one.  When it comes again, at once or after any number
    of inputs that do not concern the route, and whatever the stack answers each time, the machine
    is still as it was left, and stays so; the headset receives nothing, nobody is told anything,
    and the timer is left alone; only that a report is about a device that is not connected is
    noted again.  The expiry of a timer does nothing either when it comes again.  Even with any
    inputs in between one of the two does nothing, while the generation counter does not run
    over. -/
theorem repeated_inputs (timeouts : Timeouts) (inputs between : List Input) (event : Event)
    (world again : Surroundings) :
    let initial := Router.new timeouts
    let router := initial.run inputs
    let reached := (router.process world event).1
    let later := reached.run between
    ((∀ moment ∈ reached.moments between, moment.isIncidental = true) →
      (event.MetBy reached.route →
        later.machine = reached.machine ∧
        reached.commands between = [] ∧
        later.process again event = (later, {
          machine := reached.machine
          transition := {
            event := event.kind
            source := reached.route
            target := reached.route
            command := none
            notices := []
            timer := .keep
            fault :=
              match event with
              | .audioOn device =>
                if again.directory.contains device then none
                else some (.inconsistentReport device)
              | _ => none }
          issued := [] })) ∧
      ∀ kind generation, event = .expired kind generation →
        later.process again event =
          (later, { machine := later.machine, transition := .start event.kind later.route })) ∧
    ∀ kind generation, event = .expired kind generation →
      (initial.armed (inputs ++ .event world event :: between)).length < UInt64.size →
      router.process world event =
          (router, { machine := router.machine, transition := .start event.kind router.route }) ∨
        later.process again event =
          (later, { machine := later.machine, transition := .start event.kind later.route }) := by
  intro initial router reached later
  have haccounted : router.machine.Accounted timeouts _ := accounted_run timeouts inputs
  have hsound := haccounted.sound
  have hreached : reached.machine.Sound := @Moment.sound_after ⟨router, .event world event⟩ hsound
  refine ⟨fun hincidental => ⟨fun hmet => ?_, ?_⟩, ?_⟩
  · have hattains : reached.machine.Attains event := Machine.attains_of_process world hmet
    obtain ⟨hmachine, hcommands⟩ :=
      run_incidental hreached (hattains.unplanned hreached) hincidental
    have hmachine : later.machine = reached.machine := hmachine
    have hagain := @process_attained later event (hmachine ▸ hattains) again
    refine ⟨hmachine, hcommands, ?_⟩
    rw [hagain, route, route, hmachine]
    cases event <;> rfl
  · rintro kind generation rfl
    exact process_stale (outstanding?_run_incidental hreached hincidental
      (outstanding?_process_expired hsound world kind generation)) again
  · rintro kind generation rfl hroom
    cases houtstanding : router.machine.outstanding? kind generation with
    | none => exact .inl (process_stale houtstanding world)
    | some timer =>
      obtain ⟨hpending, rfl, rfl⟩ := Machine.outstanding?_eq_some.1 houtstanding
      have hchange := (Machine.process_outstanding hsound hpending world).1
      have harmed : timer.request timeouts ∈ initial.armed inputs :=
        List.mem_of_getLast? (haccounted.last hpending)
      have hnone := outstanding?_after_change hroom hchange harmed timer.kind
      rw [run_append] at hnone
      exact .inr (process_stale hnone again)

/-- A device is asked for once more while it has to confirm, on a stack that has lost it and would
    refuse, and then it does not confirm, of which the expiry comes twice. -/
theorem repeated_inputs_asked_twice :
    let world := (Stack.ofDevices [⟨"A"⟩, ⟨"B"⟩]).surroundings
    let again := ((Stack.ofDevices []).setAccepts false).surroundings
    let initial := Router.new (.of (.ofMillis 5000) (.ofMillis 500) 1)
    let request := Event.connect (some ⟨"A"⟩)
    let overdue := Event.expired .confirmation 1
    let asked := (initial.process world request).1
    let between := [.event world (.deviceAdded ⟨"C"⟩), .event world (.deviceLost ⟨"B"⟩),
      .event again (.audioLost ⟨"C"⟩), .event world (.expired .retry 1)]
    let unanswered := (asked.process world overdue).1
    (∀ moment ∈ asked.moments between, moment.isIncidental = true) ∧
      request.MetBy asked.route ∧
      (asked.run between).machine.pending = some ⟨1, .confirmation, ⟨"A"⟩, 0⟩ ∧
      ((asked.run between).process again request).1 = asked.run between ∧
      unanswered.machine.pending = some ⟨2, .retry, ⟨"A"⟩, 1⟩ ∧
      (initial.armed [.event world request, .event world overdue]).length < UInt64.size ∧
      (unanswered.process again overdue).1 = unanswered := by
  intro world again initial request overdue asked between unanswered
  have hincidental : ∀ moment ∈ asked.moments between, moment.isIncidental = true := by decide
  have hmet : request.MetBy asked.route := ⟨⟨"A"⟩, by decide, .inr rfl⟩
  have hroom : (initial.armed [.event world request, .event world overdue]).length <
      UInt64.size := by decide
  obtain ⟨hfirst, -⟩ := repeated_inputs _ [] between request world again
  obtain ⟨hmachine, -, hagain⟩ := (hfirst hincidental).1 hmet
  obtain ⟨-, htwice⟩ := repeated_inputs _ [.event world request] [] overdue world again
  have hpending : asked.machine.pending = some ⟨1, .confirmation, ⟨"A"⟩, 0⟩ := by decide
  have hsame := congrArg Prod.fst hagain
  refine ⟨hincidental, hmet, (congrArg Machine.pending hmachine).trans hpending,
    hsame, by decide, hroom, ?_⟩
  rcases htwice _ _ rfl hroom with hidle | hidle
  · exact absurd (congrArg (·.1.machine.pending) hidle) (by decide)
  · have hsame := congrArg Prod.fst hidle
    exact hsame

end Router

end CallAudio
