/-
  Expiries of timers that are not outstanding.

  The expiry of a timer may come late, twice, or without there having been such a timer.

  * `Machine.process_stale`, `Machine.process_outstanding`: the expiry of a timer that is not
    outstanding does nothing, and that of the outstanding timer is always acted on;
  * `Router.moments_liveInputs`: the expiries that do nothing can be taken out of a run;
  * `Router.fired_sublist`: the timers that are acted on come in the order in which they were
    armed, each at most once, and before the one that is outstanding then;
  * `Router.stale_expiries`: all of it, for every run.
-/
import CallAudio.Proofs.Record
import CallAudio.Proofs.Run

namespace CallAudio

namespace Machine

variable {machine : Machine} {timer : PendingTimer} {kind : TimerKind} {generation : UInt64}

/-- The outstanding timer, if it has this kind and this generation. -/
def outstanding? (machine : Machine) (kind : TimerKind) (generation : UInt64) :
    Option PendingTimer :=
  machine.pending.filter fun timer => timer.kind = kind && timer.generation = generation

theorem outstanding?_eq_some :
    machine.outstanding? kind generation = some timer ↔
      machine.pending = some timer ∧ timer.kind = kind ∧ timer.generation = generation := by
  simp [outstanding?, Option.filter_eq_some_iff]

theorem outstanding?_eq_none :
    machine.outstanding? kind generation = none ↔
      ∀ timer, machine.pending = some timer →
        ¬ (timer.kind = kind ∧ timer.generation = generation) := by
  simp [outstanding?, Option.filter_eq_none_iff]

/-- The expiry of a timer that is not outstanding does nothing. -/
theorem process_stale (h : machine.outstanding? kind generation = none) (world : Surroundings) :
    machine.process world (.expired kind generation) =
      { machine, transition := .start (.expired kind) machine.route } := by
  have hmatching : (Turn.start machine (.expired kind)).matching? kind generation = none := by
    cases hm : (Turn.start machine (.expired kind)).matching? kind generation with
    | none => rfl
    | some timer =>
      obtain ⟨hpending, hkind, hgeneration, -⟩ := Turn.matching?_eq_some hm
      exact absurd ⟨hkind, hgeneration⟩ (outstanding?_eq_none.1 h timer hpending)
  simp only [process, Turn.handle, Turn.onExpired, Event.kind, hmatching]
  rfl

/-- The expiry of the outstanding timer matches. -/
theorem Sound.matching? (h : machine.Sound) (hpending : machine.pending = some timer)
    (event : EventKind) :
    (Turn.start machine event).matching? timer.kind timer.generation = some timer := by
  have hroute := h.route_eq hpending
  unfold PendingTimer.route at hroute
  refine Option.filter_eq_some_iff.2 ⟨hpending, ?_⟩
  cases hkind : timer.kind <;> simp_all [Turn.start, Route.isOff]

/-- An expiry that does not match is not that of the outstanding timer. -/
theorem Sound.outstanding?_of_stale (h : machine.Sound) {event : EventKind}
    (hstale : (Turn.start machine event).matching? kind generation = none) :
    machine.outstanding? kind generation = none := by
  refine outstanding?_eq_none.2 fun timer hpending hsame => ?_
  obtain ⟨rfl, rfl⟩ := hsame
  exact absurd (hstale.symm.trans (h.matching? hpending event)) (by simp)

/-- What the expiry of the outstanding timer does: the timer is not outstanding any more, and
    its device is blamed for not confirming, or is tried again if it is still connected. -/
theorem process_outstanding (hsound : machine.Sound) (hpending : machine.pending = some timer)
    (world : Surroundings) :
    let turn := machine.process world (.expired timer.kind timer.generation)
    Change machine turn.machine turn.transition.timer.armed? ∧
    (timer.kind = .confirmation →
      turn.transition.fault = some (.confirmationTimeout timer.device) ∧ turn.issued = []) ∧
    (timer.kind = .retry →
      turn.issued =
        if world.directory.contains timer.device then [.connectAudio timer.device] else []) := by
  have hmatch := hsound.matching? hpending (.expired timer.kind)
  obtain ⟨after, houtcome, heq⟩ :=
    Turn.process_outcome world machine (.expired timer.kind timer.generation)
  rw [heq]
  obtain ⟨generation, kind, device, attempt⟩ := timer
  cases houtcome with
  | stale hstale => exact absurd (hstale.symm.trans hmatch) (by simp)
  | timedOut hmatching hsettled =>
    cases hmatching.symm.trans hmatch
    exact ⟨.of_pending (hsettled.change rfl rfl),
      fun _ => ⟨hsettled.fault_eq, hsettled.issued_eq⟩, fun hkind => (by cases hkind)⟩
  | retried hmatching hlisted hattempted =>
    cases hmatching.symm.trans hmatch
    exact ⟨.of_pending (hattempted.change rfl), fun hkind => (by cases hkind),
      fun _ => by simpa [hlisted] using hattempted.issued_eq⟩
  | retryGone hmatching hgone =>
    cases hmatching.symm.trans hmatch
    have hoff : (Turn.start machine (.expired .retry)).machine.route = .off :=
      hsound.route_retry hpending rfl
    refine ⟨?_, fun hkind => (by cases hkind), fun _ => by simp [hgone]⟩
    exact @Turn.change_consumeTimer (Turn.start machine (.expired .retry)) hoff rfl

/-- A timer is not outstanding any more after a change. -/
theorem Change.outstanding?_eq_none {after : Machine} {request : Option TimerRequest}
    (h : Change machine after request) (hsound : machine.Sound)
    (hpending : machine.pending = some timer) (kind : TimerKind) :
    after.outstanding? kind timer.generation = none := by
  refine Machine.outstanding?_eq_none.2 fun next hnext hsame => ?_
  have hgeneration := hsame.2
  rw [h.generation_eq hnext, hsound.newest hpending] at hgeneration
  exact absurd (UInt64.left_eq_add.1 hgeneration.symm) (by decide)

end Machine

/-- To a router the expiry of a timer that is not outstanding does nothing either. -/
theorem Router.process_stale {router : Router} {kind : TimerKind} {generation : UInt64}
    (h : router.machine.outstanding? kind generation = none) (world : Surroundings) :
    router.process world (.expired kind generation) =
      (router, { machine := router.machine, transition := .start (.expired kind) router.route })
        := by
  rw [Router.process, Machine.process_stale h world]
  exact congrArg (·, _) (congrArg (Router.mk router.machine) (Notifier.dispatch_nil _))

/-! ## Taking expiries out of a run -/

namespace Moment

/-- The timer that is acted on, if the input is the expiry of the outstanding one. -/
def fired? (moment : Moment) : Option TimerRequest :=
  match moment.input with
  | .event _ (.expired kind generation) =>
    (moment.before.machine.outstanding? kind generation).map
      (·.request moment.before.machine.timeouts)
  | _ => none

/-- Whether the input is the expiry of a timer that is not outstanding. -/
def isStale (moment : Moment) : Bool :=
  match moment.input with
  | .event _ (.expired kind generation) =>
    (moment.before.machine.outstanding? kind generation).isNone
  | _ => false

variable {moment : Moment}

theorem eq_expired_of_isStale (h : moment.isStale = true) :
    ∃ world kind generation, moment.input = .event world (.expired kind generation) ∧
      moment.before.machine.outstanding? kind generation = none := by
  unfold isStale at h
  split at h
  · next world kind generation hinput =>
    exact ⟨world, kind, generation, hinput, Option.isNone_iff_eq_none.1 h⟩
  · cases h

theorem after_of_isStale (h : moment.isStale = true) : moment.after = moment.before := by
  obtain ⟨world, kind, generation, hinput, hnone⟩ := eq_expired_of_isStale h
  rw [after, hinput, Router.take, Router.process_stale hnone]

theorem issued_of_isStale (h : moment.isStale = true) : moment.issued = [] := by
  obtain ⟨world, kind, generation, hinput, hnone⟩ := eq_expired_of_isStale h
  rw [issued, turn?, hinput]
  simp only [Router.process_stale hnone, Option.elim_some]

theorem timer_of_isStale (h : moment.isStale = true) : moment.timer = .keep := by
  obtain ⟨world, kind, generation, hinput, hnone⟩ := eq_expired_of_isStale h
  rw [timer, hinput]
  simp only [Router.process_stale hnone]
  rfl

theorem armed?_of_isStale (h : moment.isStale = true) : moment.armed? = none :=
  armed?_of_keep (timer_of_isStale h)

end Moment

namespace Router

/-- The moments of a run that are not stale. -/
def live (router : Router) (inputs : List Input) : List Moment :=
  (router.moments inputs).filter (!·.isStale)

/-- The inputs of a run without the expiries of timers that are not outstanding. -/
def liveInputs (router : Router) (inputs : List Input) : List Input :=
  (router.live inputs).map (·.input)

theorem live_cons (router : Router) (input : Input) (inputs : List Input) :
    router.live (input :: inputs) =
      if Moment.isStale ⟨router, input⟩ then router.live inputs
      else ⟨router, input⟩ :: (router.take input).live inputs := by
  rw [live, moments, List.filter_cons]
  by_cases h : Moment.isStale ⟨router, input⟩ = true
  · have hafter : router.take input = router := Moment.after_of_isStale h
    simp [h, hafter, live]
  · simp [h, live]

/-- **A run without its stale expiries has the same moments but theirs.** -/
theorem moments_liveInputs (router : Router) (inputs : List Input) :
    router.moments (router.liveInputs inputs) = router.live inputs := by
  induction inputs generalizing router with
  | nil => rfl
  | cons input inputs ih =>
    rw [liveInputs, live_cons]
    split
    · exact ih router
    · rw [List.map_cons, moments]
      exact congrArg _ (ih _)

theorem run_liveInputs (router : Router) (inputs : List Input) :
    router.run (router.liveInputs inputs) = router.run inputs := by
  induction inputs generalizing router with
  | nil => rfl
  | cons input inputs ih =>
    rw [liveInputs, live_cons]
    split
    · next h =>
      have hafter : router.take input = router := Moment.after_of_isStale h
      rw [run, run, List.foldl_cons, hafter]
      exact ih router
    · exact ih _

/-- Nothing is missing without the stale moments that is read off the others. -/
theorem flatMap_live {α : Type} {f : Moment → List α}
    (h : ∀ moment, moment.isStale = true → f moment = []) (router : Router)
    (inputs : List Input) :
    (router.live inputs).flatMap f = (router.moments inputs).flatMap f := by
  rw [live]
  induction router.moments inputs with
  | nil => rfl
  | cons moment moments ih =>
    by_cases hstale : moment.isStale = true
    · simp [hstale, ih, h moment hstale]
    · simp [hstale, ih]

theorem commands_liveInputs (router : Router) (inputs : List Input) :
    router.commands (router.liveInputs inputs) = router.commands inputs := by
  rw [commands, moments_liveInputs]
  exact flatMap_live (fun _ => Moment.issued_of_isStale) router inputs

theorem armed_liveInputs (router : Router) (inputs : List Input) :
    router.armed (router.liveInputs inputs) = router.armed inputs := by
  rw [armed, armed, moments_liveInputs, List.filterMap_eq_flatMap_toList,
    List.filterMap_eq_flatMap_toList]
  refine flatMap_live (fun moment hstale => ?_) router inputs
  rw [Moment.armed?_of_isStale hstale, Option.toList_none]

end Router

/-! ## Expiries that are acted on -/

/-- The request with which the outstanding timer was armed. -/
def Machine.request? (machine : Machine) : Option TimerRequest :=
  machine.pending.map (·.request machine.timeouts)

namespace Moment

variable {moment : Moment} {request : TimerRequest}

theorem of_fired? (h : moment.fired? = some request) :
    ∃ world timer, moment.input = .event world (.expired timer.kind timer.generation) ∧
      moment.before.machine.pending = some timer ∧
      moment.before.machine.request? = some request := by
  unfold fired? at h
  split at h
  · next world kind generation hinput =>
    obtain ⟨timer, houtstanding, rfl⟩ := Option.map_eq_some_iff.1 h
    obtain ⟨hpending, rfl, rfl⟩ := Machine.outstanding?_eq_some.1 houtstanding
    exact ⟨world, timer, hinput, hpending, by rw [Machine.request?, hpending]; rfl⟩
  · cases h

/-- An expiry that is acted on changes the machine. -/
theorem change_of_fired? (hsound : moment.before.machine.Sound)
    (h : moment.fired? = some request) :
    moment.before.machine.Change moment.after.machine moment.armed? := by
  obtain ⟨router, input⟩ := moment
  obtain ⟨world, timer, hinput, hpending, -⟩ := of_fired? h
  cases hinput
  exact (Machine.process_outstanding hsound hpending world).1

/-- After a change only the timer is outstanding that was armed with it. -/
theorem request?_of_change (h : moment.before.machine.Change moment.after.machine moment.armed?) :
    moment.after.machine.request? = moment.armed? := by
  generalize moment.after.machine = after at h ⊢
  generalize moment.armed? = armed at h ⊢
  cases h <;> rfl

/-- A timer that is acted on by an input, or outstanding after it, was outstanding before or
    is armed by it. -/
theorem fired_sublist (hsound : moment.before.machine.Sound) :
    List.Sublist (moment.fired?.toList ++ moment.after.machine.request?.toList)
      (moment.before.machine.request?.toList ++ moment.armed?.toList) := by
  cases hfired : moment.fired? with
  | none =>
    rw [Option.toList_none, List.nil_append]
    rcases moment.change hsound with ⟨hmachine, -⟩ | hchange
    · rw [hmachine]
      exact List.sublist_append_left _ _
    · rw [request?_of_change hchange]
      exact List.sublist_append_right _ _
  | some request =>
    obtain ⟨-, -, -, -, hrequest⟩ := of_fired? hfired
    rw [request?_of_change (change_of_fired? hsound hfired), hrequest]

end Moment

namespace Router

/-- The timers that were acted on during a run, in order. -/
def fired (router : Router) (inputs : List Input) : List TimerRequest :=
  (router.moments inputs).filterMap (·.fired?)

theorem fired_cons (router : Router) (input : Input) (inputs : List Input) :
    router.fired (input :: inputs) =
      (Moment.fired? ⟨router, input⟩).toList ++ (router.take input).fired inputs := by
  rw [fired, moments, List.filterMap_cons]
  cases Moment.fired? ⟨router, input⟩ <;> rfl

/-- The timers that are acted on in a run, and then the one that is outstanding in the end,
    were outstanding when it began or armed in it. -/
theorem fired_sublist {router : Router} (hsound : router.machine.Sound) (inputs : List Input) :
    List.Sublist (router.fired inputs ++ (router.run inputs).machine.request?.toList)
      (router.machine.request?.toList ++ router.armed inputs) := by
  induction inputs generalizing router with
  | nil => exact List.sublist_append_left _ _
  | cons input inputs ih =>
    set moment : Moment := ⟨router, input⟩
    have hstep := (moment.fired_sublist hsound).append
      (List.Sublist.refl (moment.after.armed inputs))
    have hrest := (List.Sublist.refl moment.fired?.toList).append
      (ih (moment.sound_after hsound))
    rw [List.append_assoc, List.append_assoc] at hstep
    rw [fired_cons, armed_cons, List.append_assoc]
    exact hrest.trans hstep

/-- Timers that are acted on after a change, or outstanding then, were armed with it or later. -/
theorem generation_ne_after_change {timeouts : Timeouts} {before after : List Input}
    {input : Input}
    (hroom : ((Router.new timeouts).armed (before ++ input :: after)).length < UInt64.size)
    (hchange : let moment : Moment := ⟨(Router.new timeouts).run before, input⟩
      moment.before.machine.Change moment.after.machine moment.armed?) :
    let changed := ((Router.new timeouts).run before).take input
    ∀ request ∈ (Router.new timeouts).armed before,
      ∀ other ∈ changed.fired after ++ (changed.run after).machine.request?.toList,
        other.generation ≠ request.generation := by
  intro changed request hrequest other hother heq
  set moment : Moment := ⟨(Router.new timeouts).run before, input⟩
  have hnodup := (accounted_run timeouts (before ++ input :: after)).nodup hroom
  rw [armed_append, armed_cons, List.map_append] at hnodup
  -- after a change only what was armed with it is outstanding, so the rest comes from later
  have hlater : other ∈ moment.armed?.toList ++ moment.after.armed after := by
    rw [← Moment.request?_of_change hchange]
    exact (fired_sublist hchange.sound after).subset hother
  exact List.disjoint_of_nodup_append hnodup (List.mem_map_of_mem hrequest)
    (heq ▸ List.mem_map_of_mem hlater)

theorem fired_after_change {timeouts : Timeouts} {before after : List Input} {input : Input}
    (hroom : ((Router.new timeouts).armed (before ++ input :: after)).length < UInt64.size)
    (hchange : let moment : Moment := ⟨(Router.new timeouts).run before, input⟩
      moment.before.machine.Change moment.after.machine moment.armed?) :
    ∀ request ∈ (Router.new timeouts).armed before,
      ∀ other ∈ (((Router.new timeouts).run before).take input).fired after,
        other.generation ≠ request.generation := fun request hrequest other hother =>
  generation_ne_after_change hroom hchange request hrequest other (List.mem_append_left _ hother)

/-- **A timer that was armed before a change is never outstanding again.** -/
theorem outstanding?_after_change {timeouts : Timeouts} {before after : List Input}
    {input : Input}
    (hroom : ((Router.new timeouts).armed (before ++ input :: after)).length < UInt64.size)
    (hchange : let moment : Moment := ⟨(Router.new timeouts).run before, input⟩
      moment.before.machine.Change moment.after.machine moment.armed?)
    {request : TimerRequest} (hrequest : request ∈ (Router.new timeouts).armed before)
    (kind : TimerKind) :
    ((Router.new timeouts).run (before ++ input :: after)).machine.outstanding? kind
      request.generation = none := by
  refine Machine.outstanding?_eq_none.2 fun timer hpending hsame => ?_
  rw [run_append] at hpending
  have hmem : timer.request (((Router.new timeouts).run before).run
      (input :: after)).machine.timeouts ∈
        (((Router.new timeouts).run before).run (input :: after)).machine.request?.toList := by
    rw [Machine.request?, hpending]
    exact List.mem_singleton_self _
  exact generation_ne_after_change hroom hchange request hrequest _
    (List.mem_append_right _ hmem) hsame.2

/-- **Expiries of timers that are not outstanding can be taken out of every run.**
    To every router that can be reached, such an expiry does nothing, while that of the
    outstanding timer is always acted on.  Without the former, a run ends in the same router,
    deliveries to listeners included, has the same commands and armed timers, and the same
    transitions but theirs.  The timers that are acted on were armed in the same order, each
    acted on at most once while the generation counter does not run over, and then none that
    was armed before an event that changed the route or led to a command is acted on after
    it. -/
theorem stale_expiries (timeouts : Timeouts) (inputs : List Input) :
    let start := Router.new timeouts
    let router := start.run inputs
    (∀ world kind generation,
      (∀ timer, router.machine.pending = some timer →
        ¬ (timer.kind = kind ∧ timer.generation = generation)) →
      router.process world (.expired kind generation) =
        (router, {
          machine := router.machine
          transition := {
            event := .expired kind
            source := router.route
            target := router.route
            command := none
            notices := []
            timer := .keep
            fault := none }
          issued := [] })) ∧
    (∀ world timer, router.machine.pending = some timer →
      let turn := (router.process world (.expired timer.kind timer.generation)).2
      (∀ next, turn.machine.pending = some next → next.generation = timer.generation + 1) ∧
      (timer.kind = .confirmation →
        turn.transition.fault = some (.confirmationTimeout timer.device)) ∧
      (timer.kind = .retry → turn.issued =
        if world.directory.contains timer.device then [.connectAudio timer.device] else [])) ∧
    (start.run (start.liveInputs inputs) = router ∧
      start.commands (start.liveInputs inputs) = start.commands inputs ∧
      start.armed (start.liveInputs inputs) = start.armed inputs ∧
      start.transitions (start.liveInputs inputs) =
        ((start.moments inputs).filter (!·.isStale)).filterMap (·.transition?)) ∧
    (start.fired inputs).Sublist (start.armed inputs) ∧
    ((start.armed inputs).length < UInt64.size →
      ((start.fired inputs).map (·.generation)).Nodup ∧
      ∀ before world event after, inputs = before ++ .event world event :: after →
        let turn := ((start.run before).process world event).2
        turn.machine.route ≠ (start.run before).route ∨ turn.issued ≠ [] →
        ∀ request ∈ start.armed before,
          ∀ other ∈ ((start.run before).process world event).1.fired after,
            other.generation ≠ request.generation) := by
  intro start router
  have haccounted := accounted_run timeouts inputs
  have hsound := haccounted.sound
  have hfired : (start.fired inputs).Sublist (start.armed inputs) :=
    (List.sublist_append_left _ _).trans
      (fired_sublist (Machine.sound_initial timeouts) inputs)
  refine ⟨fun world kind generation hnone => ?_, fun world timer hpending => ?_,
    ⟨run_liveInputs start inputs, commands_liveInputs start inputs,
      armed_liveInputs start inputs, ?_⟩, hfired,
    fun hroom => ⟨(haccounted.nodup hroom).sublist (hfired.map _), ?_⟩⟩
  · exact process_stale (Machine.outstanding?_eq_none.2 hnone) world
  · obtain ⟨hchange, hconfirmation, hretry⟩ :=
      Machine.process_outstanding hsound hpending world
    refine ⟨fun next hnext => ?_, fun hkind => (hconfirmation hkind).1, hretry⟩
    rw [hsound.newest hpending]
    exact hchange.generation_eq hnext
  · rw [transitions, moments_liveInputs, live]
  · rintro before world event after rfl turn heffect
    have hbefore := (accounted_run timeouts before).sound
    refine fired_after_change hroom ?_
    rcases Machine.process_change hbefore world event with ⟨hmachine, -, hissued⟩ | hchange
    · have hroute : turn.machine.route = (start.run before).route :=
        congrArg Machine.route hmachine
      exact absurd heffect (by simp [hroute, show turn.issued = [] from hissued])
    · exact hchange

/-- A confirmation that is overdue is reported twice, and then the retry. -/
theorem stale_expiries_twice :
    let start := Router.new (.of (.ofMillis 5000) (.ofMillis 500) 1)
    let world := (Stack.ofDevices [⟨"A"⟩]).surroundings
    let inputs := [.event world (.connect none), .event world (.expired .confirmation 1),
      .event world (.expired .confirmation 1), .event world (.expired .retry 2)]
    (start.armed inputs).length < UInt64.size ∧
      (start.fired inputs).map (·.generation) = [1, 2] ∧
      ((start.fired inputs).map (·.generation)).Nodup ∧
      (start.liveInputs inputs).length = 3 ∧
      start.run (start.liveInputs inputs) = start.run inputs := by
  intro start world inputs
  have hroom : (start.armed inputs).length < UInt64.size := by decide
  obtain ⟨-, -, ⟨hrun, -⟩, -, hfired⟩ := stale_expiries _ inputs
  exact ⟨hroom, by decide, (hfired hroom).1, by decide, hrun⟩

end Router

end CallAudio
