/-
  Who takes over audio when the device that has the route is lost.

  On a stack in memory the headset has the devices of the directory, so that all that comes of
  the loss can be told from one list.

  * `Stack.fallback?_eq`, `Stack.active?_eq`: the searches that the machine makes in it;
  * `Turn.Outcome.vacated`: a route is vacated alike by the loss of its device and by the loss of
    audio on it;
  * `Machine.Succession`: what becomes of the machine then, and what the headset receives;
  * `Router.succession`: so it is with every router that can be reached, and the timer that was
    outstanding is given up in any case.
-/
import CallAudio.Proofs.Notices

namespace CallAudio

/-! ## Searches -/

namespace Stack

variable (stack : Stack)

/-- The device that takes over is the first other one of the list; that the directory also lists
    it goes without saying here. -/
theorem fallback?_eq (lost : Device) :
    stack.surroundings.directory.fallback? lost =
      stack.recency.devices.find? fun device => device ≠ lost := by
  have hrecent : stack.surroundings.directory.mostRecent (some lost) =
      stack.recency.devices.find? fun device => device ≠ lost := by
    show stack.recency.devices.find? (fun device => some device != some lost) = _
    congr 1
    funext device
    by_cases h : device = lost <;> simp [h]
  rw [Directory.fallback?, hrecent]
  cases hfind : stack.recency.devices.find? fun device => device ≠ lost with
  | none => rfl
  | some candidate =>
    have hne : candidate ≠ lost := by simpa using List.find?_some hfind
    have hlisted : stack.surroundings.directory.contains candidate = true :=
      Recency.contains_iff.2 (List.mem_of_find?_eq_some hfind)
    simp [Option.filter, hne, hlisted]

/-- The stack reports audio first on the first active device of the list. -/
theorem active?_eq :
    stack.surroundings.headset.active? =
      stack.recency.devices.find? fun device => device ∈ stack.active := by
  show stack.recency.devices.find? stack.active.contains = _
  congr 1
  funext device
  simp

/-- A device that takes over is in the directory. -/
theorem contains_of_find? {lost candidate : Device}
    (h : stack.recency.devices.find? (fun device => device ≠ lost) = some candidate) :
    stack.surroundings.directory.contains candidate = true :=
  Recency.contains_iff.2 (List.mem_of_find?_eq_some h)

end Stack

/-! ## Vacated routes -/

namespace Turn

variable {world : Surroundings} {turn after : Turn} {device : Device} {attempt : Nat}
  {event : Event}

/-- All that a turn does beside its record: the machine, the commands, and what becomes of the
    owner's timer. -/
def effects (turn : Turn) : Machine × List Command × TimerAction :=
  (turn.machine, turn.issued, turn.transition.timer)

/-- The loss of the device that has the route, or of audio on it, vacates the route. -/
theorem Outcome.vacated (h : Outcome world turn event after) (hloss : event.IsLossOf device)
    (hroute : turn.machine.route.isRoutedTo device = true) :
    ∃ before vacated, Vacated world device before vacated ∧
      before.effects = turn.effects ∧ after.effects = vacated.effects ∧
      before.transition.notices = turn.transition.notices ∧
      after.transition.notices =
        vacated.transition.notices ++ event.listNotices world.directory.count := by
  rcases hloss with rfl | rfl
  · cases h with
    | lost _ hvacated =>
      exact ⟨turn, _, hvacated, rfl, by simp [effects], rfl, by simp [Event.listNotices]⟩
    | lostPending hother => rw [hroute] at hother; cases hother
    | lostOther hother => rw [hroute] at hother; cases hother
  · cases h with
    | dropped _ hvacated =>
      exact ⟨_, _, hvacated, by simp [effects], rfl, by simp, by simp [Event.listNotices]⟩
    | droppedOther hother => rw [hroute] at hother; cases hother

/-! ## The owner's timer -/

theorem Settled.timer_ne_keep (h : Settled world device attempt turn after)
    (htimer : turn.transition.timer ≠ .keep) : after.transition.timer ≠ .keep := by
  cases h with
  | active => exact htimer
  | retry => simp
  | ended => exact htimer

/-- To cancel the timer once more does not bring it back. -/
theorem cancelTimer_ne_keep (htimer : turn.transition.timer ≠ .keep) :
    turn.cancelTimer.transition.timer ≠ .keep := by
  rw [transition_cancelTimer]
  split
  · simp
  · exact htimer

theorem Attempted.timer_ne_keep (h : Attempted world device attempt turn after)
    (htimer : turn.transition.timer ≠ .keep) : after.transition.timer ≠ .keep := by
  cases h with
  | accepted => simp
  | refused _ hsettled => exact hsettled.timer_ne_keep (cancelTimer_ne_keep htimer)

/-- A timer that was outstanding when the route was vacated is not left to run. -/
theorem Vacated.timer_ne_keep (h : Vacated world device turn after)
    (hpending : turn.machine.pending ≠ none) : after.transition.timer ≠ .keep := by
  have hcancelled : turn.cancelTimer.transition.timer ≠ .keep := by
    rw [transition_cancelTimer, if_pos (Option.isSome_iff_ne_none.2 hpending)]
    simp
  cases h with
  | handOver _ hattempted => exact hattempted.timer_ne_keep hcancelled
  | off => exact hcancelled

end Turn

/-! ## Succession -/

/-- What a machine comes to whose route `lost` had, and what the headset receives. -/
inductive Machine.Succession (stack : Stack) (lost : Device) (machine : Machine) :
    Machine → List Command → Prop
  /-- There is no other device. -/
  | nobody (hnext : stack.recency.devices.find? (fun device => device ≠ lost) = none) :
      Succession stack lost machine { machine with route := .off, pending := none } []
  /-- The next device is asked, and has to confirm. -/
  | asked {next : Device}
      (hnext : stack.recency.devices.find? (fun device => device ≠ lost) = some next)
      (haccepts : stack.accepts = true) :
      Succession stack lost machine
        { machine with
          route := .connecting next
          pending := some ⟨machine.generation + 1, .confirmation, next, 0⟩
          generation := machine.generation + 1 }
        [.connectAudio next]
  /-- The next device is refused, and audio is active on a device all the same. -/
  | elsewhere {next other : Device}
      (hnext : stack.recency.devices.find? (fun device => device ≠ lost) = some next)
      (hrefuses : stack.accepts = false)
      (hactive : stack.recency.devices.find? (fun device => device ∈ stack.active) = some other) :
      Succession stack lost machine
        { machine with route := .connected other, pending := none } [.connectAudio next]
  /-- The next device is refused, and will be tried again. -/
  | retry {next : Device}
      (hnext : stack.recency.devices.find? (fun device => device ≠ lost) = some next)
      (hrefuses : stack.accepts = false)
      (hactive : stack.recency.devices.find? (fun device => device ∈ stack.active) = none)
      (hleft : 0 < machine.timeouts.retries) :
      Succession stack lost machine
        { machine with
          route := .off
          pending := some ⟨machine.generation + 1, .retry, next, 1⟩
          generation := machine.generation + 1 }
        [.connectAudio next]
  /-- The next device is refused for good. -/
  | ended {next : Device}
      (hnext : stack.recency.devices.find? (fun device => device ≠ lost) = some next)
      (hrefuses : stack.accepts = false)
      (hactive : stack.recency.devices.find? (fun device => device ∈ stack.active) = none)
      (hleft : machine.timeouts.retries = 0) :
      Succession stack lost machine { machine with route := .off, pending := none }
        [.connectAudio next]

namespace Machine

variable {stack : Stack} {lost : Device}

/-- A vacated route goes to the first other device of the list, and if that one is refused to
    the first on which audio is active. -/
theorem Succession.of_vacated {turn after : Turn}
    (h : Turn.Vacated stack.surroundings lost turn after) (hissued : turn.issued = []) :
    Succession stack lost turn.machine after.machine after.issued := by
  cases h with
  | off hnone =>
    rw [stack.fallback?_eq] at hnone
    simpa [hissued] using @Succession.nobody stack lost turn.machine hnone
  | handOver hcandidate hattempted =>
    rw [stack.fallback?_eq] at hcandidate
    cases hattempted with
    | accepted haccepts =>
      simpa [hissued, arm] using @Succession.asked stack lost turn.machine _ hcandidate haccepts
    | refused hrefuses hsettled =>
      cases hsettled with
      | active hactive =>
        rw [stack.active?_eq] at hactive
        simpa [hissued] using
          @Succession.elsewhere stack lost turn.machine _ _ hcandidate hrefuses hactive
      | retry hactive hleft =>
        rw [stack.active?_eq] at hactive
        simpa [hissued, arm] using
          @Succession.retry stack lost turn.machine _ hcandidate hrefuses hactive
            (by simpa using hleft)
      | ended hactive hended =>
        rw [stack.active?_eq] at hactive
        have hleft : turn.machine.timeouts.retries = 0 := by
          -- the device is listed, so that only the number of retries can end the attempt
          by_contra hsome
          have hgone := hended (by simpa using Nat.pos_of_ne_zero hsome)
          rw [stack.contains_of_find? hcandidate] at hgone
          cases hgone
        simpa [hissued] using
          @Succession.ended stack lost turn.machine _ hcandidate hrefuses hactive hleft

/-- **The loss of the device that has the route, or of audio on it, is a succession.**  The
    notices begin with that of the route after it, and an outstanding timer does not stay. -/
theorem process_succession (machine : Machine) (stack : Stack) {event : Event}
    (hloss : event.IsLossOf lost) (hroute : machine.route.isRoutedTo lost = true) :
    let turn := machine.process stack.surroundings event
    Succession stack lost machine turn.machine turn.issued ∧
      turn.transition.notices =
        turn.machine.route.notice :: event.listNotices stack.recency.count ∧
      (machine.pending ≠ none → turn.transition.timer ≠ .keep) := by
  intro turn
  obtain ⟨after, houtcome, heq⟩ := Turn.process_outcome stack.surroundings machine event
  obtain ⟨before, vacated, hvacated, hbefore, hafter, hheard, hnotices⟩ :=
    houtcome.vacated hloss hroute
  obtain ⟨hmachine, hissued, -⟩ : before.machine = machine ∧ before.issued = [] ∧ _ := by
    simpa [Turn.effects] using hbefore
  obtain ⟨hmachine', hissued', htimer'⟩ : after.machine = vacated.machine ∧
      after.issued = vacated.issued ∧ after.transition.timer = vacated.transition.timer := by
    simpa [Turn.effects] using hafter
  have hturn : turn = after.finish := heq
  rw [hturn]
  refine ⟨?_, ?_, fun hpending => ?_⟩
  · have hsuccession := Succession.of_vacated hvacated hissued
    rw [hmachine, ← hmachine', ← hissued'] at hsuccession
    exact hsuccession
  · have hnone : before.transition.notices = [] := hheard
    show after.transition.notices = after.machine.route.notice :: _
    rw [hnotices, hvacated.notices_eq, hnone, hmachine']
    rfl
  · show after.transition.timer ≠ .keep
    rw [htimer']
    exact hvacated.timer_ne_keep (hmachine ▸ hpending)

/-- A change has the owner arm the timer that is outstanding after it, if any. -/
theorem Change.request_eq {before after : Machine} {request : Option TimerRequest}
    (h : Change before after request) :
    request = after.pending.map (·.request before.timeouts) := by
  cases h <;> rfl

/-- An owner who is not told to keep its timer has the one armed that is outstanding, if any. -/
theorem process_armed? {machine : Machine} (hsound : machine.Sound) (world : Surroundings)
    (event : Event) (htimer : machine.pending ≠ none →
      (machine.process world event).transition.timer ≠ .keep) :
    (machine.process world event).transition.timer.armed? =
      (machine.process world event).machine.pending.map (·.request machine.timeouts) := by
  rcases process_change hsound world event with ⟨hsame, hkeep, -⟩ | hchange
  · have hpending : machine.pending = none := by
      by_contra hsome
      exact htimer hsome hkeep
    rw [hkeep, hsame, hpending]
    rfl
  · exact hchange.request_eq

/-- A machine whose route was lost has no timer outstanding that was so before. -/
theorem Succession.pending_ne {machine after : Machine} {commands : List Command}
    (h : Succession stack lost machine after commands) (hsound : machine.Sound)
    {timer : PendingTimer} (hpending : machine.pending = some timer) :
    after.pending ≠ some timer := by
  have hfresh : timer.generation ≠ machine.generation + 1 := by
    rw [hsound.newest hpending]
    exact fun h => absurd (UInt64.left_eq_add.1 h) (by decide)
  cases h with
  | nobody => simp
  | elsewhere => simp
  | ended => simp
  | asked => rintro ⟨⟩; exact hfresh rfl
  | retry => rintro ⟨⟩; exact hfresh rfl

end Machine

/-! ## Routers -/

namespace Router

/-- **Who takes over.**  To every router that can be reached and has its route on `lost`, the loss
    of this device, or of audio on it, on a stack in memory with whatever devices, in whatever
    order, once or repeatedly, does exactly this.  Without another device audio is off, and the
    headset receives nothing.  Otherwise it receives one command, to connect the first other
    device.  If that is accepted the device has to confirm, on its first attempt; if not, audio is
    connected on the first device that is active, or off without one, and then the device is tried
    again if retries are allowed.  The listener hears of the route first, and then of the list of
    devices; the owner of the machine arms the timer that is outstanding then, and one that was
    outstanding before is given up on both sides.  And whatever a directory answers, a device
    that takes over is another one, and listed. -/
theorem succession (timeouts : Timeouts) (inputs : List Input) :
    let router := (Router.new timeouts).run inputs
    let next := router.machine.generation + 1
    (∀ (stack : Stack) (lost : Device) (event : Event),
      router.route.isRoutedTo lost = true →
      event = .deviceLost lost ∨ event = .audioLost lost →
      let turn := (router.process stack.surroundings event).2
      let machine := turn.machine
      (match stack.recency.devices.find? fun device => device ≠ lost with
      | none => machine.route = .off ∧ machine.pending = none ∧ turn.issued = []
      | some candidate =>
        turn.issued = [.connectAudio candidate] ∧
        if stack.accepts then
          machine.route = .connecting candidate ∧
            machine.pending = some ⟨next, .confirmation, candidate, 0⟩
        else
          match stack.recency.devices.find? fun device => device ∈ stack.active with
          | some other => machine.route = .connected other ∧ machine.pending = none
          | none => machine.route = .off ∧
            machine.pending =
              if 0 < timeouts.retries then some ⟨next, .retry, candidate, 1⟩ else none) ∧
      turn.transition.command.toList = turn.issued ∧
      turn.transition.notices =
        (match machine.route with
          | .off => .audioDisconnected
          | .connecting _ | .connected _ => .audioConnected) ::
        (match event with
          | .deviceLost _ =>
            .deviceListChanged ::
              if stack.recency.devices.length = 0 then [.deviceUnavailable] else []
          | _ => []) ∧
      turn.transition.timer.armed? = machine.pending.map (fun timer =>
        ⟨timer.kind, timer.generation, timeouts.delay timer.kind⟩) ∧
      ∀ timer, router.machine.pending = some timer →
        machine.pending ≠ some timer ∧ turn.transition.timer ≠ .keep) ∧
    ∀ (directory : Directory) vacated candidate,
      directory.fallback? vacated = some candidate →
        candidate ≠ vacated ∧ directory.contains candidate = true := by
  intro router next
  have haccounted := accounted_run timeouts inputs
  have hsound : router.machine.Sound := haccounted.sound
  have htimeouts : router.machine.timeouts = timeouts := haccounted.timeouts_eq
  refine ⟨fun stack lost event hroute hloss => ?_, fun _ _ _ => Directory.of_fallback?⟩
  intro turn machine
  obtain ⟨hsuccession, hnotices, htimer⟩ :=
    router.machine.process_succession stack hloss hroute
  have hcommand : turn.issued = turn.transition.command.toList :=
    router.machine.process_issued stack.surroundings event
  have harmed : turn.transition.timer.armed? =
      machine.pending.map (·.request router.machine.timeouts) :=
    Machine.process_armed? hsound stack.surroundings event htimer
  refine ⟨?_, hcommand.symm, ?_, ?_, fun timer hpending => ⟨?_, ?_⟩⟩
  · replace hsuccession :
        Machine.Succession stack lost router.machine machine turn.issued := hsuccession
    clear_value machine
    generalize turn.issued = commands at hsuccession ⊢
    cases hsuccession with
    | nobody hnext => rw [hnext]; exact ⟨rfl, rfl, rfl⟩
    | asked hnext haccepts => rw [hnext]; simp [haccepts, next]
    | elsewhere hnext hrefuses hactive => rw [hnext, hactive]; simp [hrefuses]
    | retry hnext hrefuses hactive hleft =>
      rw [htimeouts] at hleft
      rw [hnext, hactive]
      simp [hrefuses, hleft, next]
    | ended hnext hrefuses hactive hleft =>
      rw [htimeouts] at hleft
      rw [hnext, hactive]
      simp [hrefuses, hleft]
  · rcases hloss with rfl | rfl <;> exact hnotices
  · rw [harmed, htimeouts]; rfl
  · exact hsuccession.pending_ne hsound hpending
  · exact htimer (by simp [hpending])

/-- A device that is being connected loses audio while the directory lists it twice, and the one
    that should take over is refused. -/
theorem succession_refused :
    let world := (Stack.ofDevices [⟨"A"⟩, ⟨"B"⟩]).surroundings
    let stack : Stack :=
      { recency := ⟨[⟨"A"⟩, ⟨"A"⟩, ⟨"B"⟩, ⟨"C"⟩]⟩, accepts := false, active := [⟨"D"⟩] }
    let router := (Router.new (.of (.ofMillis 5000) (.ofMillis 500) 1)).run
      [.event world (.connect none)]
    let turn := (router.process stack.surroundings (.audioLost ⟨"A"⟩)).2
    router.route.isRoutedTo ⟨"A"⟩ = true ∧
      router.machine.pending = some ⟨1, .confirmation, ⟨"A"⟩, 0⟩ ∧
      turn.issued = [.connectAudio ⟨"B"⟩] ∧ turn.machine.route = .off ∧
      turn.machine.pending = some ⟨2, .retry, ⟨"B"⟩, 1⟩ ∧
      turn.transition.notices = [.audioDisconnected] ∧ turn.transition.timer ≠ .keep := by
  intro world stack router turn
  have hroute : router.route.isRoutedTo ⟨"A"⟩ = true := by decide
  have hpending : router.machine.pending = some ⟨1, .confirmation, ⟨"A"⟩, 0⟩ := by decide
  have hnext : stack.recency.devices.find? (fun device => device ≠ ⟨"A"⟩) = some ⟨"B"⟩ := by
    decide
  have hactive : stack.recency.devices.find? (fun device => device ∈ stack.active) = none := by
    decide
  obtain ⟨hsuccession, -⟩ := succession (.of (.ofMillis 5000) (.ofMillis 500) 1)
    [.event world (.connect none)]
  obtain ⟨hends, -, hnotices, -, htimer⟩ := hsuccession stack _ _ hroute (.inr rfl)
  rw [hnext, hactive] at hends
  obtain ⟨hissued, hoff, hretry⟩ := hends
  exact ⟨hroute, hpending, hissued, hoff, hretry, by rw [hnotices, hoff],
    (htimer _ hpending).2⟩

end Router

end CallAudio
