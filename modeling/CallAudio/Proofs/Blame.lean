/-
  Faults.

  Faults are recorded in four places, several of them can arise during one event, and the first
  one is kept.

  * `Machine.foreseen?`: the fault of an event in itself, whatever comes of it;
    `Machine.Foreseen`: where it comes from;
  * `Headset.refusal?`: the fault of a command that the headset refuses;
  * `Machine.process_fault`: the fault in a record is the former or else the latter;
  * `Turn.Outcome.answered`: an attempt has its way, or the route is what the stack reports;
  * `Machine.fault_of_asked`: no attempt fails in silence;
  * `Router.first_fault`: all of it, for every router that can be reached.
-/
import CallAudio.Proofs.Request

namespace CallAudio

/-- The fault of an event in itself. -/
def Machine.foreseen? (machine : Machine) (world : Surroundings) : Event → Option Fault
  | .audioOn device | .audioLost device =>
    if world.directory.contains device then none else some (.inconsistentReport device)
  | .expired .confirmation generation =>
    (machine.outstanding? .confirmation generation).map fun timer =>
      .confirmationTimeout timer.device
  | .connect (some device) =>
    if machine.route.device? = some device ∨ world.directory.contains device then none
    else some (.unknownDevice device)
  | .connect none | .disconnect | .deviceAdded _ | .deviceLost _ | .expired .retry _ => none

/-- What the fault of an event in itself comes from. -/
inductive Machine.Foreseen (machine : Machine) (world : Surroundings) (event : Event) :
    Option Fault → Prop
  /-- A report about a device that is not connected. -/
  | inconsistent {device : Device} (hevent : event = .audioOn device ∨ event = .audioLost device)
      (hunlisted : world.directory.contains device = false) :
      Foreseen machine world event (some (.inconsistentReport device))
  /-- A device that did not confirm in time. -/
  | overdue {timer : PendingTimer} (hpending : machine.pending = some timer)
      (hkind : timer.kind = .confirmation)
      (hevent : event = .expired .confirmation timer.generation) :
      Foreseen machine world event (some (.confirmationTimeout timer.device))
  /-- A request for another device than the current one, which is not connected. -/
  | unknown {device : Device} (hevent : event = .connect (some device))
      (hother : machine.route.device? ≠ some device)
      (hunlisted : world.directory.contains device = false) :
      Foreseen machine world event (some (.unknownDevice device))
  /-- No other event is a fault in itself. -/
  | nothing : Foreseen machine world event none

theorem Machine.foreseen?_foreseen (machine : Machine) (world : Surroundings) (event : Event) :
    machine.Foreseen world event (machine.foreseen? world event) := by
  cases event with
  | audioOn device | audioLost device =>
    unfold foreseen?
    dsimp only
    split
    · exact .nothing
    · next hunlisted => exact .inconsistent (by simp) (by simpa using hunlisted)
  | expired kind generation =>
    cases kind with
    | retry => exact .nothing
    | confirmation =>
      unfold foreseen?
      dsimp only
      cases houtstanding : machine.outstanding? .confirmation generation with
      | none => exact .nothing
      | some timer =>
        obtain ⟨hpending, hkind, rfl⟩ := outstanding?_eq_some.1 houtstanding
        exact .overdue hpending hkind rfl
  | connect requested =>
    cases requested with
    | none => exact .nothing
    | some device =>
      unfold foreseen?
      dsimp only
      split
      · exact .nothing
      · next hneither =>
        obtain ⟨hother, hunlisted⟩ := not_or.1 hneither
        exact .unknown rfl hother (by simpa using hunlisted)
  | disconnect | deviceAdded | deviceLost => exact .nothing

/-- The fault of a command. -/
def Headset.refusal? (headset : Headset) : Command → Option Fault
  | .connectAudio device =>
    if headset.accepts device then none else some (.commandRejected device)
  | .disconnectAudio => none

namespace Turn

variable {world : Surroundings} {turn after : Turn} {device : Device} {attempt : Nat}

/-- A refused attempt is blamed, unless something was before. -/
theorem Attempted.blames (h : Attempted world device attempt turn after)
    (hissued : turn.issued = []) :
    after.transition.fault =
      (turn.transition.fault <|> after.issued.findSome? world.headset.refusal?) := by
  rw [h.fault_eq, h.issued_eq, hissued]
  simp [Headset.refusal?]

theorem Vacated.blames (h : Vacated world device turn after) (hissued : turn.issued = []) :
    after.transition.fault =
      (turn.transition.fault <|> after.issued.findSome? world.headset.refusal?) := by
  cases h with
  | handOver _ hattempted => simpa using hattempted.blames (by simpa using hissued)
  | off => simp [hissued]

/-- The headset was asked to open audio to `device`, and did or did not accept. -/
def Answered (world : Surroundings) (device : Device) (turn : Turn) : Prop :=
  turn.machine.route =
    if world.headset.accepts device then .connecting device else world.headset.reported

theorem Attempted.answered {asked : Device} (h : Attempted world device attempt turn after)
    (hissued : turn.issued = []) (hasked : .connectAudio asked ∈ after.issued) :
    Answered world asked after := by
  rw [h.issued_eq, hissued, List.nil_append, List.mem_singleton] at hasked
  cases hasked
  exact h.route_eq

theorem Vacated.answered {asked : Device} (h : Vacated world device turn after)
    (hissued : turn.issued = []) (hasked : .connectAudio asked ∈ after.issued) :
    Answered world asked after := by
  cases h with
  | handOver _ hattempted => exact hattempted.answered (by simpa using hissued) hasked
  | off => simp [hissued] at hasked

theorem Outcome.answered {event : Event} {asked : Device} (h : Outcome world turn event after)
    (hissued : turn.issued = []) (hasked : .connectAudio asked ∈ after.issued) :
    Answered world asked after := by
  cases h with
  | connect _ _ hattempted => exact hattempted.answered (by simpa using hissued) hasked
  | switch _ _ _ hattempted => exact hattempted.answered hissued hasked
  | lost _ hvacated =>
    have hvacant := hvacated.answered hissued (by simpa using hasked)
    simpa [Answered] using hvacant
  | dropped _ hvacated => exact hvacated.answered (by simpa using hissued) hasked
  | timedOut _ hsettled =>
    rw [hsettled.issued_eq] at hasked
    simp [hissued] at hasked
  | retried _ _ hattempted => exact hattempted.answered (by simpa using hissued) hasked
  | _ => simp [hissued] at hasked

end Turn

namespace Machine

variable {machine : Machine} {world : Surroundings} {event : Event} {device : Device}

/-- **The fault of the event comes first, and then that of the command.** -/
theorem process_fault (hsound : machine.Sound) (world : Surroundings) (event : Event) :
    let turn := machine.process world event
    turn.transition.fault =
      (machine.foreseen? world event <|> turn.issued.findSome? world.headset.refusal?) := by
  intro turn
  obtain ⟨after, houtcome, heq⟩ := Turn.process_outcome world machine event
  have hturn : turn = after.finish := heq
  rw [hturn, Turn.issued_finish, Turn.transition_finish]
  cases houtcome with
  | @connect requested target _ hroute hselected hattempted =>
    have hnone : machine.foreseen? world (.connect requested) = none := by
      cases requested with
      | none => rfl
      | some device =>
        rw [Directory.selectTarget_eq_some_iff, Directory.target?_some] at hselected
        have hlisted : world.directory.contains device = true := by
          by_contra hunknown
          simp [hunknown] at hselected
        simp [foreseen?, hlisted]
    simpa [hnone] using hattempted.blames (by simp)
  | noTarget => simp [foreseen?]
  | unknownTarget hroute hunknown =>
    have hroute : machine.route = .off := hroute
    simp [foreseen?, hroute, hunknown, Route.device?]
  | @routed requested current hroute hrequested =>
    have hcurrent : machine.route.device? = some current := hroute
    rcases hrequested with rfl | rfl <;> simp [foreseen?, hcurrent]
  | switch _ _ hlisted hattempted =>
    simpa [foreseen?, hlisted] using hattempted.blames rfl
  | @unknownSwitch current device hroute hne hunknown =>
    have hcurrent : machine.route.device? = some current := hroute
    simp [foreseen?, hcurrent, hne.symm, hunknown]
  | stayOff | disconnect => simp [foreseen?, Headset.refusal?]
  | added | lostPending | lostOther => simp [foreseen?]
  | lost _ hvacated => simpa [foreseen?] using hvacated.blames rfl
  | confirmed | confirmedAgain | droppedOther => simp [foreseen?]
  | dropped _ hvacated => simpa [foreseen?] using hvacated.blames (by simp)
  | @stale kind generation hstale =>
    have hnone := hsound.outstanding?_of_stale hstale
    cases kind <;> simp [foreseen?, hnone]
  | timedOut hmatching hsettled =>
    obtain ⟨hpending, hkind, hgeneration, -⟩ := Turn.matching?_eq_some hmatching
    have houtstanding := outstanding?_eq_some.2 ⟨hpending, hkind, hgeneration⟩
    have houtstanding : machine.outstanding? _ _ = _ := houtstanding
    simp [foreseen?, houtstanding, hsettled.fault_eq, hsettled.issued_eq]
  | retried _ _ hattempted => simpa [foreseen?] using hattempted.blames rfl
  | retryGone => simp [foreseen?]

/-- A command is blamed if it is an attempt that the headset refused. -/
theorem refusal_eq_some_iff (machine : Machine) (world : Surroundings) (event : Event)
    {fault : Fault} :
    (machine.process world event).issued.findSome? world.headset.refusal? = some fault ↔
      ∃ device, fault = .commandRejected device ∧
        .connectAudio device ∈ (machine.process world event).issued ∧
        world.headset.accepts device = false := by
  rw [process_issued]
  cases (machine.process world event).transition.command with
  | none => simp
  | some command =>
    cases command with
    | disconnectAudio => simp [Headset.refusal?]
    | connectAudio device =>
      by_cases haccepts : world.headset.accepts device = true
      · simp [Headset.refusal?, haccepts]
      · have hrefuses : world.headset.accepts device = false := by simpa using haccepts
        constructor
        · intro hfault
          have hfault : .commandRejected device = fault := by
            simpa [Headset.refusal?, hrefuses] using hfault
          exact ⟨device, hfault.symm, by simp, hrefuses⟩
        · rintro ⟨other, rfl, hmem, -⟩
          have hother : other = device := by simpa using hmem
          simp [Headset.refusal?, hrefuses, hother]

/-- An event by which an attempt is made is no fault in itself, unless it is an inconsistent
    report. -/
theorem foreseen?_of_asked (hsound : machine.Sound)
    (hasked : .connectAudio device ∈ (machine.process world event).issued) :
    machine.foreseen? world event = none ∨
      ∃ reported, machine.foreseen? world event = some (.inconsistentReport reported) := by
  have hforeseen := machine.foreseen?_foreseen world event
  generalize machine.foreseen? world event = fault at hforeseen ⊢
  cases hforeseen with
  | @inconsistent reported => exact .inr ⟨reported, rfl⟩
  | nothing => exact .inl rfl
  | @overdue timer hpending hkind hevent =>
    -- a device that did not confirm is not followed by an attempt
    obtain ⟨-, hconfirmation, -⟩ := process_outstanding hsound hpending world
    rw [hevent, ← hkind, (hconfirmation hkind).2] at hasked
    cases hasked
  | @unknown target hevent hother hunlisted =>
    have hnew : ¬ machine.route.Serves (some target) := by
      rintro ⟨current, hroute, hrequested⟩
      have htarget : target = current := by simpa using hrequested
      exact hother (htarget ▸ hroute)
    have huntargeted : world.directory.target? (some target) = none := by
      simp [Directory.target?_some, hunlisted]
    rw [hevent, (process_untargeted hnew huntargeted).1] at hasked
    cases hasked

/-- **No attempt fails in silence.** -/
theorem fault_of_asked (hsound : machine.Sound)
    (hasked : .connectAudio device ∈ (machine.process world event).issued) :
    let turn := machine.process world event
    (turn.machine.route ≠ .connecting device → turn.transition.fault ≠ none) ∧
    (turn.machine.route = .connecting device →
      turn.transition.fault = none ∨
        ∃ reported, turn.transition.fault = some (.inconsistentReport reported)) := by
  intro turn
  have hissued : turn.issued = [.connectAudio device] := by
    cases machine.process_ordered world event with
    | nothing hnothing => rw [hnothing] at hasked; cases hasked
    | connect hconnect =>
      rw [hconnect, List.mem_singleton] at hasked
      cases hasked
      exact hconnect
    | disconnect hdisconnect => rw [hdisconnect] at hasked; simp at hasked
  have hroute : Turn.Answered world device turn := by
    obtain ⟨after, houtcome, heq⟩ := Turn.process_outcome world machine event
    rw [heq] at hasked
    show Turn.Answered world device (machine.process world event)
    rw [heq]
    exact houtcome.answered rfl hasked
  have hfault : turn.transition.fault =
      (machine.foreseen? world event <|> world.headset.refusal? (.connectAudio device)) := by
    rw [process_fault hsound world event,
      show (machine.process world event).issued = _ from hissued]
    simp
  refine ⟨fun hmissed => ?_, fun hreached => ?_⟩
  · have hrefuses : world.headset.accepts device = false := by
      by_contra haccepts
      exact hmissed (by simpa [Turn.Answered, haccepts] using hroute)
    rw [hfault]
    cases machine.foreseen? world event <;> simp [Headset.refusal?, hrefuses]
  · have haccepts : world.headset.accepts device = true := by
      by_contra hrefuses
      rw [Turn.Answered, hreached, if_neg hrefuses] at hroute
      exact world.headset.reported_ne_connecting device hroute.symm
    have hforeseen : turn.transition.fault = machine.foreseen? world event := by
      simp [hfault, Headset.refusal?, haccepts]
    rw [hforeseen]
    exact foreseen?_of_asked hsound hasked

end Machine

namespace Router

/-- **Of several faults the first one is recorded.**  For every router that can be reached and
    whatever the stack answers, the fault of an event is: of a report about a device that is not
    connected, that the report is inconsistent; of the expiry of the outstanding timer of a device
    that has to confirm, that it did not confirm in time; of a request for another device than the
    one that has the route, that it is not connected, if it is not; and of any other event, that
    the headset refused an attempt, exactly if it did.  So an attempt without success always comes
    with a fault, and one with success with no other fault than that of an inconsistent report. -/
theorem first_fault (timeouts : Timeouts) (inputs : List Input) :
    let router := (Router.new timeouts).run inputs
    ∀ world event,
      let turn := (router.process world event).2
      let fault := turn.transition.fault
      let inconsistent (device : Device) :=
        (event = .audioOn device ∨ event = .audioLost device) ∧
          world.directory.contains device = false
      let overdue (timer : PendingTimer) :=
        router.machine.pending = some timer ∧ timer.kind = .confirmation ∧
          event = .expired .confirmation timer.generation
      let unknown (device : Device) :=
        event = .connect (some device) ∧ router.route.device? ≠ some device ∧
          world.directory.contains device = false
      (∀ device, inconsistent device → fault = some (.inconsistentReport device)) ∧
      (∀ timer, overdue timer → fault = some (.confirmationTimeout timer.device)) ∧
      (∀ device, unknown device → fault = some (.unknownDevice device)) ∧
      ((∀ device, ¬ inconsistent device) → (∀ timer, ¬ overdue timer) →
        (∀ device, ¬ unknown device) →
        ∀ found, fault = some found ↔
          ∃ device, found = .commandRejected device ∧ .connectAudio device ∈ turn.issued ∧
            world.headset.accepts device = false) ∧
      ∀ device, .connectAudio device ∈ turn.issued →
        (turn.machine.route ≠ .connecting device → fault ≠ none) ∧
        (turn.machine.route = .connecting device →
          fault = none ∨ ∃ reported, fault = some (.inconsistentReport reported)) := by
  intro router world event turn fault inconsistent overdue unknown
  have hsound : router.machine.Sound := (accounted_run timeouts inputs).sound
  have hfault : fault = (router.machine.foreseen? world event <|>
      turn.issued.findSome? world.headset.refusal?) := Machine.process_fault hsound world event
  refine ⟨?_, ?_, ?_, fun hconsistent hintime hknown found => ?_,
    fun device hasked => Machine.fault_of_asked hsound hasked⟩
  · rintro device ⟨rfl | rfl, hunlisted⟩ <;> simp [hfault, Machine.foreseen?, hunlisted]
  · rintro timer ⟨hpending, hkind, rfl⟩
    have houtstanding := Machine.outstanding?_eq_some.2 ⟨hpending, hkind, rfl⟩
    simp [hfault, Machine.foreseen?, houtstanding]
  · rintro device ⟨rfl, hother, hunlisted⟩
    have hother : router.machine.route.device? ≠ some device := hother
    simp [hfault, Machine.foreseen?, hother, hunlisted]
  · have hnone : router.machine.foreseen? world event = none := by
      have hforeseen := router.machine.foreseen?_foreseen world event
      generalize router.machine.foreseen? world event = foreseen at hforeseen ⊢
      cases hforeseen with
      | @inconsistent device hevent hunlisted =>
        exact absurd ⟨hevent, hunlisted⟩ (hconsistent device)
      | @overdue timer hpending hkind hevent =>
        exact absurd ⟨hpending, hkind, hevent⟩ (hintime timer)
      | @unknown device hevent hother hunlisted =>
        exact absurd ⟨hevent, hother, hunlisted⟩ (hknown device)
      | nothing => rfl
    rw [hfault, hnone]
    exact router.machine.refusal_eq_some_iff world event

/-- A device that is gone loses audio, and the headset refuses another one. -/
theorem first_fault_inconsistent :
    let world := (Stack.ofDevices [⟨"A"⟩, ⟨"B"⟩]).surroundings
    let refusing := ((Stack.ofDevices [⟨"B"⟩]).setAccepts false).surroundings
    let inputs := [.event world (.audioOn ⟨"A"⟩)]
    let router := (Router.new (.of (.ofMillis 5000) (.ofMillis 500) 1)).run inputs
    let lost := (router.process refusing (.audioLost ⟨"A"⟩)).2
    let switched := (router.process refusing (.connect (some ⟨"B"⟩))).2
    refusing.directory.contains ⟨"A"⟩ = false ∧
      .connectAudio ⟨"B"⟩ ∈ lost.issued ∧ lost.machine.route = .off ∧
      lost.transition.fault = some (.inconsistentReport ⟨"A"⟩) ∧
      .connectAudio ⟨"B"⟩ ∈ switched.issued ∧
      switched.transition.fault = some (.commandRejected ⟨"B"⟩) := by
  intro world refusing inputs router lost switched
  have hunlisted : refusing.directory.contains ⟨"A"⟩ = false := by decide
  have hlisted : refusing.directory.contains ⟨"B"⟩ = true := by decide
  have hrefused : .connectAudio ⟨"B"⟩ ∈ switched.issued := by decide
  obtain ⟨hinconsistent, -⟩ := first_fault (.of (.ofMillis 5000) (.ofMillis 500) 1) inputs
    refusing (.audioLost ⟨"A"⟩)
  obtain ⟨-, -, -, hother, -⟩ := first_fault (.of (.ofMillis 5000) (.ofMillis 500) 1) inputs
    refusing (.connect (some ⟨"B"⟩))
  have hrejected := hother (by simp) (by simp)
    (by rintro device ⟨heq, -, hgone⟩; cases heq; simp [hlisted] at hgone) (.commandRejected ⟨"B"⟩)
  exact ⟨hunlisted, by decide, by decide, hinconsistent ⟨"A"⟩ ⟨.inr rfl, hunlisted⟩, hrefused,
    hrejected.2 ⟨⟨"B"⟩, rfl, hrefused, by decide⟩⟩

end Router

end CallAudio
