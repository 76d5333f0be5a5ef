/-
  What the listener is told about whether there are devices.

  A device that comes or goes changes the directory at once and is reported to the service some
  time later, so that reports are handled while the directory has moved on.  What is told depends
  on how many devices there are then: that there is one if a device is reported while there is
  exactly one, and that there is none if a loss is reported while there is none.

  * `Reporting`: a service and its stack, and the changes that were not reported yet;
    `Reporting.Step`, `Reporting.step`, `Reporting.run`: what happens to them, in any order;
  * `Service.told?_handle`: what a message has the listener told;
  * `Reporting.Effect`, `Reporting.step_effect`: what a step does to the number of devices, to
    the changes that are still to be handled, and to what was told;
  * `Reporting.quiet_run`: what is told of an empty directory; `Reporting.episode_run`,
    `Reporting.heard_run`: and of one that is not;
  * `Reporting.availability_settles`: what the listener was told last once all is handled;
  * `Reporting.availability_burst`: two devices that come at once, of which it is told nothing.
-/
import CallAudio.Bench
import CallAudio.Proofs.Notices
import CallAudio.Proofs.Serial

namespace CallAudio

/-- Whether a notice says that there are devices, or that there are none. -/
def Notice.isAvailability : Notice → Bool
  | deviceAvailable | deviceUnavailable => true
  | deviceListChanged | audioConnected | audioDisconnected => false

/-- What the listener was told last about whether there are devices. -/
def Notifier.told? (notifier : Notifier) : Option Notice :=
  ((notifier.calls.map (·.notice)).filter (·.isAvailability)).getLast?

/-! ## Reports -/

/-- A change of the directory. -/
inductive Change where
  /-- A device connected. -/
  | came (device : Device)
  /-- A device disconnected. -/
  | went (device : Device)
deriving DecidableEq, Inhabited

/-- The event that reports a change. -/
def Change.event : Change → Event
  | came device => .deviceAdded device
  | went device => .deviceLost device

/-- What the listener is told about whether there are devices when a change is handled, if there
    are `count` then. -/
def Change.notice? (count : Nat) : Change → Option Notice
  | came _ => if count = 1 then some .deviceAvailable else none
  | went _ => if count = 0 then some .deviceUnavailable else none

/-- The change that an event reports. -/
def Event.change? : Event → Option Change
  | deviceAdded device => some (.came device)
  | deviceLost device => some (.went device)
  | connect _ | disconnect | audioOn _ | audioLost _ | expired _ _ => none

/-- The change that a message reports. -/
def Message.change? : Message → Option Change
  | event e => e.change?
  | force _ | flush | stop => none

/-- A service and its stack, the directory of which changes before that is reported. -/
structure Reporting where
  bench : Bench
  /-- The changes that were not reported yet, the oldest first. -/
  unreported : List Change := []

namespace Reporting

/-- Something that happens while changes are reported. -/
inductive Step where
  /-- A device connects. -/
  | connect (device : Device)
  /-- A device disconnects. -/
  | disconnect (device : Device)
  /-- The oldest change that was not reported yet is reported. -/
  | report
  /-- A caller enqueues something else. -/
  | send (message : Message) (hother : message.change? = none)
  /-- The service handles the next message. -/
  | handle
  /-- Time passes until `time`. -/
  | pass (time : Nat)
  /-- Alarm `number` rings, if it is due. -/
  | ring (number : Nat)
  /-- The headset side of the stack changes. -/
  | setHeadset (accepts : Bool) (active : List Device)

/-- Whether the directory changes. -/
def Step.isChange : Step → Bool
  | connect _ | disconnect _ => true
  | report | send _ _ | handle | pass _ | ring _ | setHeadset _ _ => false

/-- A service with a listener, and no device yet. -/
def start (timeouts : Timeouts) (listener : Nat) : Reporting where
  bench := { service := .start ((Router.new timeouts).register listener), stack := {} }

variable (reporting : Reporting)

/-- The service does something. -/
def act (action : Action) : Reporting :=
  { reporting with bench.service := reporting.bench.service.act action }

/-- What comes of a step. -/
def step : Step → Reporting
  | .connect device =>
    { bench := { reporting.bench with stack := reporting.bench.stack.connect device }
      unreported := reporting.unreported ++ [.came device] }
  | .disconnect device =>
    { bench := { reporting.bench with stack := reporting.bench.stack.disconnect device }
      unreported := reporting.unreported ++ [.went device] }
  | .report =>
    match reporting.unreported with
    | [] => reporting
    | change :: rest =>
      { reporting.act (.enqueue (.event change.event)) with unreported := rest }
  | .send message _ => reporting.act (.enqueue message)
  | .handle => { reporting with bench := reporting.bench.handleNext }
  | .pass time => reporting.act (.pass time)
  | .ring number => reporting.act (.ring number)
  | .setHeadset accepts active =>
    { reporting with
      bench.stack := (reporting.bench.stack.setAccepts accepts).setActive active }

/-- What comes of many. -/
def run (steps : List Step) : Reporting := steps.foldl step reporting

/-- How many devices there are. -/
def count : Nat := reporting.bench.stack.recency.count

/-- What the listener was told last. -/
def told? : Option Notice := reporting.bench.service.router.notifier.told?

/-- The changes that were not handled yet, the oldest first. -/
def pending : List Change :=
  reporting.bench.service.queue.filterMap (·.change?) ++ reporting.unreported

/-- The change that is reported by the next message. -/
def next? : Option Change := reporting.bench.service.queue.head?.bind (·.change?)

/-- The service runs, and every change is reported and handled. -/
structure Settled : Prop where
  running : reporting.bench.service.running = true
  queue : reporting.bench.service.queue = []
  unreported : reporting.unreported = []

/-- Whether a step handles a report that a device came while there is exactly one. -/
def announces (reporting : Reporting) : Step → Bool
  | .handle =>
    match reporting.next? with
    | some (.came _) => reporting.count = 1
    | some (.went _) | none => false
  | _ => false

/-- Whether a step changes the directory while there is exactly one device, and before the earlier
    changes are handled. -/
def hurries (reporting : Reporting) (step : Step) : Bool :=
  step.isChange && reporting.count = 1 && !reporting.pending.isEmpty

/-- Whether one of `steps` passes a test, when it is taken. -/
def sometime (test : Reporting → Step → Bool) (reporting : Reporting) : List Step → Bool
  | [] => false
  | step :: steps => test reporting step || (reporting.step step).sometime test steps

end Reporting

/-! ## What a message has the listener told -/

@[simp] theorem Change.change?_event (change : Change) : change.event.change? = some change := by
  cases change <;> rfl

theorem Event.getLast?_listNotices (event : Event) (count : Nat) :
    ((event.listNotices count).filter (·.isAvailability)).getLast? =
      event.change?.bind (·.notice? count) := by
  cases event <;> simp only [listNotices, change?, Option.bind, Change.notice?] <;> try split
  all_goals rfl

/-- A notice about audio says nothing about whether there are devices. -/
theorem Notice.filter_isAudio (notices : List Notice) :
    (notices.filter (·.isAudio)).filter (·.isAvailability) = [] := by
  rw [List.filter_filter, List.filter_eq_nil_iff]
  intro notice _ hboth
  cases notice <;> simp [isAudio, isAvailability] at hboth

theorem Notifier.told?_of_calls {before after : Notifier} {listener : Nat}
    {notices : List Notice}
    (h : after.calls = before.calls ++ notices.map (⟨listener, ·, .held⟩)) :
    after.told? = ((notices.filter (·.isAvailability)).getLast?).or before.told? := by
  have hnotices : (notices.map fun notice => (⟨listener, notice, .held⟩ : Call)).map
      (·.notice) = notices := by
    rw [List.map_map]; exact List.map_id _
  rw [told?, h, List.map_append, hnotices, List.filter_append, List.getLast?_append, told?]

/-- Of an event the listener is told what it means for the list of devices, and for the rest
    nothing that has to do with whether there are any. -/
theorem Router.told?_process {router : Router} {listener : Nat}
    (h : router.notifier.listener? = some listener) (world : Surroundings) (event : Event) :
    (router.process world event).1.notifier.told? =
      (event.change?.bind (·.notice? world.directory.count)).or router.notifier.told? := by
  obtain ⟨-, hnotices⟩ := router.machine.process_notices world event
  have hcalls := Moment.calls_after ⟨router, .event world event⟩
  rw [Moment.deliveries_eq h] at hcalls
  have hsaid : ((router.machine.process world event).transition.notices.filter
      (·.isAvailability)).getLast? = event.change?.bind (·.notice? world.directory.count) := by
    rw [hnotices, List.filter_append, Notice.filter_isAudio, List.nil_append,
      Event.getLast?_listNotices]
  rw [← hsaid]
  exact Notifier.told?_of_calls hcalls

namespace Service

variable (service : Service)

theorem told?_handle {listener : Nat}
    (h : service.router.notifier.listener? = some listener) (world : Surroundings)
    (message : Message) :
    (service.handle world message).1.router.notifier.told? =
      (message.change?.bind (·.notice? world.directory.count)).or
        service.router.notifier.told? := by
  obtain ⟨hrouter, -⟩ := service.handle_seen world message
  rw [hrouter]
  cases message with
  | event event => exact Router.told?_process h world event
  | force route =>
    exact congrArg Notifier.told? (service.router.notifier_force world.directory route)
  | flush => rfl
  | stop => rfl

theorem listener?_act (action : Action) :
    (service.act action).router.notifier.listener? = service.router.notifier.listener? := by
  rw [router_act]
  cases hinput : service.input? action with
  | none => rfl
  | some input =>
    have hafter := Moment.listener_after ⟨service.router, input⟩
    have hregistered : input.registered? = none := by
      cases action with
      | handle world =>
        obtain ⟨message, -, hmessage⟩ := Option.bind_eq_some_iff.1 hinput
        cases message <;> cases hmessage <;> rfl
      | enqueue message => cases hinput
      | pass time => cases hinput
      | ring number => cases hinput
    rw [hregistered] at hafter
    exact hafter

/-- No alarm reports a change of the directory. -/
theorem change?_ring (number : Nat) :
    (service.arrival? (.ring number)).bind (·.change?) = none := by
  cases harrival : service.arrival? (.ring number) with
  | none => rfl
  | some message =>
    simp only [arrival?] at harrival
    split at harrival
    · obtain ⟨alarm, -, rfl⟩ := Option.map_eq_some_iff.1 harrival
      rfl
    · cases harrival

end Service

/-! ## Steps -/

namespace Reporting

/-- What a step does to the number of devices, to the changes that wait to be handled, and to
    what was told. -/
inductive Effect (before : Reporting) : Step → Reporting → Prop
  /-- A device comes, maybe one that is there already. -/
  | came {after : Reporting} (device : Device) (hcount : 0 < after.count)
      (hfirst : before.count = 0 → after.count = 1)
      (hpending : after.pending = before.pending ++ [.came device])
      (htold : after.told? = before.told?) : Effect before (.connect device) after
  /-- A device goes, maybe one that was not there. -/
  | went {after : Reporting} (device : Device) (hcount : after.count ≤ before.count)
      (hpending : after.pending = before.pending ++ [.went device])
      (htold : after.told? = before.told?) : Effect before (.disconnect device) after
  /-- The oldest change that waits is handled. -/
  | handled {after : Reporting} {change : Change} (hnext : before.next? = some change)
      (hcount : after.count = before.count) (hpending : before.pending = change :: after.pending)
      (htold : after.told? = (change.notice? before.count).or before.told?) :
      Effect before .handle after
  /-- Nothing of it. -/
  | other {step : Step} {after : Reporting} (hstep : step.isChange = false)
      (hnext : step = .handle → before.next? = none) (hcount : after.count = before.count)
      (hpending : after.pending = before.pending) (htold : after.told? = before.told?) :
      Effect before step after

variable {reporting : Reporting} {listener : Nat}

/-- An action other than to handle a message brings in the change that arrives with it. -/
theorem act_eq {action : Action} (h : reporting.bench.service.handling? action = none) :
    (reporting.act action).told? = reporting.told? ∧
      (reporting.act action).bench.service.queue.filterMap (·.change?) =
        reporting.bench.service.queue.filterMap (·.change?) ++
          ((reporting.bench.service.arrival? action).bind (·.change?)).toList := by
  rcases reporting.bench.service.act_cases action with
    ⟨world, message, rest, -, -, hhandling, -⟩ | ⟨-, alarms, now, heq⟩
  · rw [h] at hhandling; cases hhandling
  · refine ⟨?_, ?_⟩
    · rw [told?, act, heq]; rfl
    · rw [act, heq, List.filterMap_append]
      cases reporting.bench.service.arrival? action with
      | none => rfl
      | some message => cases hchange : message.change? <;> simp [hchange]

/-- An action that brings in no change has no effect. -/
theorem act_effect {action : Action} {step : Step}
    (h : reporting.bench.service.handling? action = none)
    (hchange : (reporting.bench.service.arrival? action).bind (·.change?) = none)
    (hstep : step.isChange = false) (hhandle : step ≠ .handle) :
    Effect reporting step (reporting.act action) := by
  obtain ⟨htold, hqueue⟩ := act_eq h
  rw [hchange] at hqueue
  refine .other hstep (fun heq => absurd heq hhandle) rfl ?_ htold
  rw [pending, hqueue, Option.toList_none, List.append_nil]
  rfl

theorem connect_effect (device : Device) :
    Effect reporting (.connect device) (reporting.step (.connect device)) := by
  refine .came device (Nat.succ_pos _) (fun hempty => ?_) (List.append_assoc ..).symm rfl
  have hnone : reporting.bench.stack.recency.devices = [] := List.eq_nil_of_length_eq_zero hempty
  show (device :: reporting.bench.stack.recency.devices.filter (· != device)).length = 1
  rw [hnone]
  rfl

theorem disconnect_effect (device : Device) :
    Effect reporting (.disconnect device) (reporting.step (.disconnect device)) :=
  .went device (List.length_filter_le ..) (List.append_assoc ..).symm rfl

/-- A change that is reported waits as before. -/
theorem report_effect (hrunning : reporting.bench.service.running = true) :
    Effect reporting .report (reporting.step .report) := by
  simp only [step]
  cases hunreported : reporting.unreported with
  | nil => exact .other rfl nofun rfl rfl rfl
  | cons change rest =>
    have harrives : reporting.bench.service.handling? (.enqueue (.event change.event)) = none :=
      rfl
    obtain ⟨htold, hqueue⟩ := act_eq harrives
    have harrival : (reporting.bench.service.arrival? (.enqueue (.event change.event))).bind
        (·.change?) = some change := by
      simp [Service.arrival?, hrunning, Message.change?]
    rw [harrival] at hqueue
    refine .other rfl nofun rfl ?_ htold
    rw [pending, hqueue, pending, hunreported, List.append_assoc]
    rfl

/-- The change that the next message reports is the oldest that waits. -/
theorem handle_effect
    (hlistener : reporting.bench.service.router.notifier.listener? = some listener)
    (hrunning : (reporting.step .handle).bench.service.running = true) :
    Effect reporting .handle (reporting.step .handle) := by
  have hservice : (reporting.step .handle).bench.service =
      (reporting.bench.service.handleNext reporting.bench.stack.surroundings).1 := rfl
  rw [Service.handleNext] at hservice
  cases hqueue : reporting.bench.service.queue with
  | nil =>
    have hidle : (reporting.step .handle).bench.service = reporting.bench.service := by
      rw [hservice, hqueue]
    refine .other rfl (fun _ => by rw [next?, hqueue]; rfl) rfl ?_ ?_
    · rw [pending, hidle]; rfl
    · rw [told?, hidle]; rfl
  | cons message rest =>
    rw [hqueue] at hservice
    have hstop : message ≠ .stop := by
      rintro rfl
      rw [hservice] at hrunning
      cases hrunning
    have hrest : (reporting.step .handle).bench.service.queue = rest := by
      rw [hservice]; exact (Service.handle_of_ne_stop _ hstop _).1
    have htold : (reporting.step .handle).told? =
        (message.change?.bind (·.notice? reporting.count)).or reporting.told? := by
      rw [told?, hservice]
      exact Service.told?_handle { reporting.bench.service with queue := rest } hlistener _ _
    have hnext : reporting.next? = message.change? := by rw [next?, hqueue]; rfl
    have hafter : (reporting.step .handle).pending =
        rest.filterMap (·.change?) ++ reporting.unreported := by
      rw [pending, hrest]; rfl
    cases hchange : message.change? with
    | none =>
      rw [hchange] at htold
      refine .other rfl (fun _ => hnext.trans hchange) rfl ?_ htold
      rw [hafter, pending, hqueue, List.filterMap_cons_none hchange]
    | some change =>
      rw [hchange] at htold
      refine .handled (hnext.trans hchange) rfl ?_ htold
      rw [hafter, pending, hqueue, List.filterMap_cons_some hchange, List.cons_append]

/-- In a step the service does something, or nothing. -/
theorem service_step (reporting : Reporting) (step : Step) :
    (reporting.step step).bench.service = reporting.bench.service ∨
      ∃ action, (reporting.step step).bench.service = reporting.bench.service.act action := by
  cases step with
  | connect device => exact .inl rfl
  | disconnect device => exact .inl rfl
  | report =>
    simp only [Reporting.step]
    split
    · exact .inl rfl
    · exact .inr ⟨.enqueue _, rfl⟩
  | send message hother => exact .inr ⟨.enqueue message, rfl⟩
  | handle => exact .inr ⟨.handle reporting.bench.stack.surroundings, rfl⟩
  | pass time => exact .inr ⟨.pass time, rfl⟩
  | ring number => exact .inr ⟨.ring number, rfl⟩
  | setHeadset accepts active => exact .inl rfl

/-- The listener stays registered. -/
theorem listener?_step (step : Step) :
    (reporting.step step).bench.service.router.notifier.listener? =
      reporting.bench.service.router.notifier.listener? := by
  rcases reporting.service_step step with heq | ⟨action, heq⟩
  · rw [heq]
  · rw [heq, Service.listener?_act]

theorem running_of_step {step : Step}
    (h : (reporting.step step).bench.service.running = true) :
    reporting.bench.service.running = true := by
  rcases reporting.service_step step with heq | ⟨action, heq⟩
  · exact heq ▸ h
  · rw [heq] at h; exact Service.running_of_act _ h

/-- **What a step does.** -/
theorem step_effect {step : Step}
    (hlistener : reporting.bench.service.router.notifier.listener? = some listener)
    (hrunning : (reporting.step step).bench.service.running = true) :
    Effect reporting step (reporting.step step) := by
  cases step with
  | connect device => exact connect_effect device
  | disconnect device => exact disconnect_effect device
  | report => exact report_effect (running_of_step hrunning)
  | send message hother =>
    refine act_effect rfl ?_ rfl (by simp)
    simp only [Service.arrival?]
    split
    · exact hother
    · rfl
  | handle => exact handle_effect hlistener hrunning
  | pass time => exact act_effect rfl rfl rfl (by simp)
  | ring number => exact act_effect rfl (reporting.bench.service.change?_ring number) rfl (by simp)
  | setHeadset accepts active => exact .other rfl (by simp) rfl rfl rfl

/-! ## Runs -/

theorem run_append (reporting : Reporting) (steps more : List Step) :
    reporting.run (steps ++ more) = (reporting.run steps).run more :=
  List.foldl_append ..

theorem run_concat (reporting : Reporting) (steps : List Step) (step : Step) :
    reporting.run (steps ++ [step]) = (reporting.run steps).step step :=
  reporting.run_append steps [step]

theorem listener?_run (reporting : Reporting) (steps : List Step) :
    (reporting.run steps).bench.service.router.notifier.listener? =
      reporting.bench.service.router.notifier.listener? := by
  induction steps using List.reverseRecOn with
  | nil => rfl
  | append_singleton steps step ih => rw [run_concat, listener?_step, ih]

/-- **Every run with a listener is a chain of effects.** -/
theorem run_induction {motive : List Step → Prop}
    (hlistener : reporting.bench.service.router.notifier.listener? = some listener)
    (nil : motive [])
    (concat : ∀ steps step, motive steps →
      Effect (reporting.run steps) step (reporting.run (steps ++ [step])) →
      motive (steps ++ [step]))
    {steps : List Step} (hrunning : (reporting.run steps).bench.service.running = true) :
    motive steps := by
  induction steps using List.reverseRecOn with
  | nil => exact nil
  | append_singleton steps step ih =>
    rw [run_concat] at hrunning
    refine concat steps step (ih (running_of_step hrunning)) ?_
    rw [run_concat]
    exact step_effect ((reporting.listener?_run steps).trans hlistener) hrunning

/-! ## No devices -/

/-- While there is no device, none is waited for or said to be there. -/
structure Quiet (reporting : Reporting) : Prop where
  /-- The last change that waits is that a device went. -/
  last : ∀ change ∈ reporting.pending.getLast?, ∃ device, change = .went device
  /-- If none waits the listener was told, or there was nothing to tell. -/
  told : reporting.pending = [] →
    reporting.told? = none ∨ reporting.told? = some .deviceUnavailable

theorem Effect.quiet {before after : Reporting} {step : Step} (h : Effect before step after)
    (hquiet : before.count = 0 → before.Quiet) (hempty : after.count = 0) : after.Quiet := by
  cases h with
  | came device hcount => omega
  | went device hcount hpending htold =>
    refine ⟨fun change hlast => ?_, fun hnone => ?_⟩
    · rw [hpending, List.getLast?_concat] at hlast
      exact ⟨device, (Option.some.inj hlast).symm⟩
    · rw [hpending] at hnone
      cases List.append_ne_nil_of_right_ne_nil _ (List.cons_ne_nil _ _) hnone
  | @handled _ change _ hcount hpending htold =>
    rw [hcount] at hempty
    obtain ⟨hlast, -⟩ := hquiet hempty
    rw [hpending] at hlast
    refine ⟨fun other hother => hlast other ?_, fun hnone => ?_⟩
    · rw [List.getLast?_cons, hother]; rfl
    · rw [hnone] at hlast
      obtain ⟨device, rfl⟩ := hlast change rfl
      rw [htold, hempty]
      exact .inr rfl
  | other _ _ hcount hpending htold =>
    obtain ⟨hlast, hsaid⟩ := hquiet (hcount.symm.trans hempty)
    exact ⟨hpending ▸ hlast, fun hnone => htold ▸ hsaid (hpending.symm.trans hnone)⟩

theorem quiet_run
    (hlistener : reporting.bench.service.router.notifier.listener? = some listener)
    (hquiet : reporting.count = 0 → reporting.Quiet) {steps : List Step}
    (hrunning : (reporting.run steps).bench.service.running = true)
    (hempty : (reporting.run steps).count = 0) : (reporting.run steps).Quiet :=
  run_induction (motive := fun steps =>
      (reporting.run steps).count = 0 → (reporting.run steps).Quiet)
    hlistener hquiet (fun _ _ ih heffect => heffect.quiet ih) hrunning hempty

/-! ## Some devices -/

theorem sometime_concat (test : Reporting → Step → Bool) (reporting : Reporting)
    (steps : List Step) (step : Step) :
    reporting.sometime test (steps ++ [step]) =
      (reporting.sometime test steps || test (reporting.run steps) step) := by
  induction steps generalizing reporting with
  | nil => simp [sometime, run]
  | cons first steps ih => rw [List.cons_append, sometime, sometime, ih, Bool.or_assoc]; rfl

/-- While there are devices the listener is told only that there is one. -/
theorem Effect.told {before after : Reporting} {step : Step} (h : Effect before step after)
    (hdevices : 0 < after.count) :
    after.told? = if before.announces step then some .deviceAvailable else before.told? := by
  cases h with
  | came _ _ _ _ htold | went _ _ _ htold => exact htold
  | @handled _ change hnext hcount _ htold =>
    rw [hcount] at hdevices
    cases change with
    | came device =>
      by_cases hone : before.count = 1 <;> simp [announces, Change.notice?, hnext, htold, hone]
    | went device => simp [announces, Change.notice?, hnext, htold, hdevices.ne']
  | @other step _ _ hnone _ _ htold =>
    cases step with
    | handle => simp [announces, hnone rfl, htold]
    | _ => exact htold

/-- The directory, empty at first, has devices after each of `steps`, and of what was told
    meanwhile there is nothing but that there is one. -/
structure Episode (reporting : Reporting) (steps : List Step) : Prop where
  empty : reporting.count = 0
  devices : ∀ earlier, earlier <+: steps → earlier ≠ [] → 0 < (reporting.run earlier).count
  told : (reporting.run steps).told? =
    if reporting.sometime announces steps then some .deviceAvailable else reporting.told?

theorem episode_nil (hempty : reporting.count = 0) : reporting.Episode [] :=
  ⟨hempty, fun _ hprefix hne => absurd (List.prefix_nil.1 hprefix) hne, rfl⟩

theorem Episode.concat {steps : List Step} {step : Step} (h : reporting.Episode steps)
    (heffect : Effect (reporting.run steps) step (reporting.run (steps ++ [step])))
    (hdevices : 0 < (reporting.run (steps ++ [step])).count) :
    reporting.Episode (steps ++ [step]) := by
  refine ⟨h.empty, fun earlier hprefix hne => ?_, ?_⟩
  · rcases List.prefix_concat_iff.1 hprefix with rfl | hprefix
    · exact hdevices
    · exact h.devices earlier hprefix hne
  · rw [heffect.told hdevices, h.told, sometime_concat]
    cases reporting.sometime announces steps <;> simp

/-- If there are devices, they have been there since the directory was empty last. -/
theorem episode_run
    (hlistener : reporting.bench.service.router.notifier.listener? = some listener)
    (hempty : reporting.count = 0) {steps : List Step}
    (hrunning : (reporting.run steps).bench.service.running = true)
    (hdevices : 0 < (reporting.run steps).count) :
    ∃ before since, steps = before ++ since ∧ (reporting.run before).Episode since := by
  revert hdevices
  refine run_induction (motive := fun steps => 0 < (reporting.run steps).count →
    ∃ before since, steps = before ++ since ∧ (reporting.run before).Episode since) hlistener
    ?_ ?_ hrunning
  · intro hdevices
    exact absurd hempty hdevices.ne'
  · intro steps step ih heffect hdevices
    rcases Nat.eq_zero_or_pos (reporting.run steps).count with hnone | hsome
    · rw [run_append] at heffect hdevices
      exact ⟨steps, [step], rfl, (episode_nil hnone).concat heffect hdevices⟩
    · obtain ⟨before, since, rfl, hepisode⟩ := ih hsome
      rw [List.append_assoc, run_append, run_append] at heffect
      rw [List.append_assoc, run_append] at hdevices
      exact ⟨before, since ++ [step], List.append_assoc .., hepisode.concat heffect hdevices⟩

/-! ## Devices that come one after the other -/

/-- The listener was told that there is a device, or will be. -/
def Heard (reporting : Reporting) : Prop :=
  reporting.told? = some .deviceAvailable ∨
    reporting.count = 1 ∧ ∃ device, .came device ∈ reporting.pending

theorem Effect.heard {before after : Reporting} {step : Step} (h : Effect before step after)
    (hunhurried : before.hurries step = false) (hheard : 0 < before.count → before.Heard)
    (hdevices : 0 < after.count) : after.Heard := by
  -- a change is made once the listener was told
  have hchange (hstep : step.isChange = true) (hbefore : 0 < before.count) :
      before.told? = some .deviceAvailable := by
    rcases hheard hbefore with htold | ⟨hone, device, hwaits⟩
    · exact htold
    · have hnone : before.pending = [] := by simpa [hurries, hstep, hone] using hunhurried
      rw [hnone] at hwaits
      cases hwaits
  have htold := h.told hdevices
  cases h with
  | came device _ hfirst hpending hsame =>
    rcases Nat.eq_zero_or_pos before.count with hempty | hbefore
    · exact .inr ⟨hfirst hempty, device, by simp [hpending]⟩
    · exact .inl (hsame.trans (hchange rfl hbefore))
  | went device hcount _ hsame =>
    exact .inl (hsame.trans (hchange rfl (Nat.lt_of_lt_of_le hdevices hcount)))
  | handled hnext hcount hpending =>
    by_cases hnow : before.announces .handle = true
    · exact .inl (by rw [htold, if_pos hnow])
    · rw [if_neg hnow] at htold
      rcases hheard (hcount ▸ hdevices) with hold | ⟨hone, device, hwaits⟩
      · exact .inl (htold.trans hold)
      · rw [hpending] at hwaits
        rcases List.mem_cons.1 hwaits with rfl | hlater
        · exact absurd (by simp [announces, hnext, hone]) hnow
        · exact .inr ⟨hcount.trans hone, device, hlater⟩
  | other _ _ hcount hpending hsame =>
    rw [Heard, hcount, hpending, hsame]
    exact hheard (hcount ▸ hdevices)

theorem heard_run
    (hlistener : reporting.bench.service.router.notifier.listener? = some listener)
    (hempty : reporting.count = 0) {steps : List Step}
    (hrunning : (reporting.run steps).bench.service.running = true)
    (hunhurried : reporting.sometime hurries steps = false)
    (hdevices : 0 < (reporting.run steps).count) : (reporting.run steps).Heard := by
  revert hunhurried hdevices
  refine run_induction (motive := fun steps => reporting.sometime hurries steps = false →
    0 < (reporting.run steps).count → (reporting.run steps).Heard) hlistener ?_ ?_ hrunning
  · intro _ hdevices
    exact absurd hempty hdevices.ne'
  · intro steps step ih heffect hunhurried hdevices
    rw [sometime_concat, Bool.or_eq_false_iff] at hunhurried
    exact heffect.heard hunhurried.2 (ih hunhurried.1) hdevices

/-! ## Settled -/

theorem Settled.pending_eq (h : reporting.Settled) : reporting.pending = [] := by
  rw [pending, h.queue, h.unreported]; rfl

/-- **What the listener was told last, when every change is reported and handled.**  In every run
    from a service with a listener and an empty directory, whatever else is sent to the service,
    and however many changes are made before one of them is handled:
    if there is no device the listener was told so, or nothing at all; if there are devices, it
    was told that there are exactly if, since the directory was empty last, a report that a device
    came was handled while there was exactly one, or else if that was what it was told then.  So
    it was if no change is made, while there is exactly one device, before the earlier changes are
    handled. -/
theorem availability_settles (timeouts : Timeouts) (listener : Nat) (steps : List Step)
    (h : ((start timeouts listener).run steps).Settled) :
    let start := start timeouts listener
    let reporting := start.run steps
    (reporting.count = 0 →
      reporting.told? = none ∨ reporting.told? = some .deviceUnavailable) ∧
    (0 < reporting.count → ∃ before since, steps = before ++ since ∧
      let last := start.run before
      last.count = 0 ∧
      (∀ earlier, earlier <+: since → earlier ≠ [] → 0 < (last.run earlier).count) ∧
      reporting.told? =
        if last.sometime announces since then some .deviceAvailable else last.told?) ∧
    (start.sometime hurries steps = false → 0 < reporting.count →
      reporting.told? = some .deviceAvailable) := by
  intro start reporting
  have hlistener : start.bench.service.router.notifier.listener? = some listener := rfl
  have hrunning : reporting.bench.service.running = true := h.running
  have hpending : reporting.pending = [] := h.pending_eq
  refine ⟨fun hempty => ?_, fun hdevices => ?_, fun hunhurried hdevices => ?_⟩
  · exact (quiet_run hlistener (fun _ => ⟨nofun, fun _ => .inl rfl⟩) hrunning hempty).told hpending
  · obtain ⟨before, since, rfl, hepisode⟩ := episode_run hlistener rfl hrunning hdevices
    refine ⟨before, since, rfl, hepisode.empty, hepisode.devices, ?_⟩
    rw [← hepisode.told, ← run_append]
  · rcases heard_run hlistener rfl hrunning hunhurried hdevices with htold | ⟨-, device, hwaits⟩
    · exact htold
    · rw [hpending] at hwaits
      cases hwaits

/-- A device that goes before the next one comes. -/
theorem availability_settles_in_turn :
    let start := start (.of (.ofMillis 5000) (.ofMillis 500) 1) 7
    let steps := [.connect ⟨"A"⟩, .report, .handle, .disconnect ⟨"A"⟩, .connect ⟨"B"⟩, .report,
      .report, .handle, .handle, .connect ⟨"C"⟩, .report, .handle]
    let reporting := start.run steps
    reporting.Settled ∧ start.sometime hurries steps = false ∧ reporting.count = 2 ∧
      reporting.told? = some .deviceAvailable := by
  intro start steps reporting
  have hsettled : reporting.Settled := ⟨by decide, by decide, by decide⟩
  have hunhurried : start.sometime hurries steps = false := by decide
  have hcount : reporting.count = 2 := by decide
  obtain ⟨-, -, hheard⟩ := availability_settles _ 7 steps hsettled
  exact ⟨hsettled, hunhurried, hcount, hheard hunhurried (by decide)⟩

/-- Two devices that come at once: when the first of them is handled there are two already, so the
    listener is never told that there are devices. -/
theorem availability_burst :
    let steps := [.connect ⟨"A"⟩, .connect ⟨"B"⟩, .report, .report, .handle, .handle]
    let reporting := (start (.of (.ofMillis 5000) (.ofMillis 500) 0) 0).run steps
    reporting.Settled ∧ reporting.count = 2 ∧ reporting.told? = none := by
  intro steps reporting
  exact ⟨⟨by decide, by decide, by decide⟩, by decide, by decide⟩

end Reporting

end CallAudio
