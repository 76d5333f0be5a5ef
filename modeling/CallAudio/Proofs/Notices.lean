/-
  What the listener is told about audio and about devices.

  Notices are written in eight places, apart from those where the route changes.

  * `Event.listNotices`: what an event has the listener told about the list of devices;
  * `Machine.process_notices`: an event has it told this and nothing else, after at most one
    notice about audio, which is due if the route changes and is that of the route after it;
  * `Router.heard_run`: so the last notice about audio is always that of the route;
  * `Router.audio_notices`: what follows for the transitions of a run, and for a listener.
-/
import CallAudio.Proofs.Log

namespace CallAudio

/-- Whether a notice is about audio. -/
def Notice.isAudio : Notice → Bool
  | audioConnected | audioDisconnected => true
  | deviceListChanged | deviceAvailable | deviceUnavailable => false

/-- The notice about audio that says where it goes. -/
def Route.notice : Route → Notice
  | off => .audioDisconnected
  | connecting _ | connected _ => .audioConnected

/-- What an event has the listener told about the list of devices, if there are `count`. -/
def Event.listNotices (count : Nat) : Event → List Notice
  | deviceAdded _ => .deviceListChanged :: if count = 1 then [.deviceAvailable] else []
  | deviceLost _ => .deviceListChanged :: if count = 0 then [.deviceUnavailable] else []
  | connect _ | disconnect | audioOn _ | audioLost _ | expired _ _ => []

theorem Route.isAudio_notice (route : Route) : route.notice.isAudio = true := by
  cases route <;> rfl

theorem Route.notice_eq_audioConnected_iff {route : Route} :
    route.notice = .audioConnected ↔ route ≠ .off := by
  cases route <;> simp [notice]

theorem Route.notice_eq_audioDisconnected_iff {route : Route} :
    route.notice = .audioDisconnected ↔ route = .off := by
  cases route <;> simp [notice]

/-- What is told about the list of devices says nothing about audio. -/
theorem Event.filter_listNotices (event : Event) (count : Nat) :
    (event.listNotices count).filter (·.isAudio) = [] := by
  cases event <;> simp only [listNotices] <;> try split
  all_goals rfl

namespace Turn

variable {world : Surroundings} {turn after : Turn} {device : Device} {attempt : Nat}
  {event : Event}

/-! ## Attempts -/

/-- A failed attempt is told as the route that it leads to. -/
theorem Settled.notices_eq (h : Settled world device attempt turn after) :
    after.transition.notices = turn.transition.notices ++ [after.machine.route.notice] := by
  cases h <;> rfl

theorem Attempted.notices_eq (h : Attempted world device attempt turn after) :
    after.transition.notices = turn.transition.notices ++ [after.machine.route.notice] := by
  cases h with
  | accepted => simp [Machine.arm, Route.notice]
  | refused _ hsettled => simpa using hsettled.notices_eq

theorem Vacated.notices_eq (h : Vacated world device turn after) :
    after.transition.notices = turn.transition.notices ++ [after.machine.route.notice] := by
  cases h with
  | handOver _ hattempted => simpa using hattempted.notices_eq
  | off => simp [Route.notice]

/-! ## Events -/

/-- What the listener is told about audio when the route goes from `before` to `after`. -/
inductive Told (before after : Route) : List Notice → Prop
  /-- Nothing, since the route stays. -/
  | nothing (hroute : after = before) : Told before after []
  /-- Where audio goes. -/
  | audio : Told before after [after.notice]

/-- No more than one notice is told, and one if the route changes. -/
theorem Told.length_eq {before route : Route} {audio : List Notice}
    (h : Told before route audio) :
    audio.length ≤ 1 ∧ (before ≠ route → audio.length = 1) := by
  cases h with
  | nothing hroute => exact ⟨Nat.zero_le _, fun hne => absurd hroute.symm hne⟩
  | audio => exact ⟨Nat.le_refl _, fun _ => rfl⟩

theorem Told.eq_notice {before route : Route} {audio : List Notice} {notice : Notice}
    (h : Told before route audio) (hmem : notice ∈ audio) : notice = route.notice := by
  cases h with
  | nothing => cases hmem
  | audio => exact List.mem_singleton.1 hmem

theorem Outcome.told (h : Outcome world turn event after) :
    ∃ audio, Told turn.machine.route after.machine.route audio ∧
      after.transition.notices =
        turn.transition.notices ++ (audio ++ event.listNotices world.directory.count) := by
  cases h with
  | connect _ _ hattempted =>
    exact ⟨_, .audio, by simpa [Event.listNotices] using hattempted.notices_eq⟩
  | noTarget hroute | unknownTarget hroute =>
    exact ⟨_, .audio, by simp [Event.listNotices, Route.notice, hroute]⟩
  | routed | unknownSwitch | stayOff | confirmedAgain | droppedOther | stale | retryGone =>
    exact ⟨_, .nothing (by simp), by simp [Event.listNotices]⟩
  | switch _ _ _ hattempted | retried _ _ hattempted =>
    exact ⟨_, .audio, by simpa [Event.listNotices] using hattempted.notices_eq⟩
  | disconnect | confirmed => exact ⟨_, .audio, by simp [Event.listNotices, Route.notice]⟩
  | added | lostPending | lostOther =>
    exact ⟨_, .nothing (by simp), by simp [Event.listNotices]⟩
  | lost _ hvacated =>
    exact ⟨_, .audio, by simp [Event.listNotices, hvacated.notices_eq]⟩
  | dropped _ hvacated =>
    exact ⟨_, .audio, by simpa [Event.listNotices] using hvacated.notices_eq⟩
  | timedOut _ hsettled =>
    exact ⟨_, .audio, by simpa [Event.listNotices] using hsettled.notices_eq⟩

end Turn

/-- **An event has the listener told at most one notice about audio, and then what it means for
    the list of devices.** -/
theorem Machine.process_notices (machine : Machine) (world : Surroundings) (event : Event) :
    let turn := machine.process world event
    let audio := turn.transition.notices.filter (·.isAudio)
    Turn.Told machine.route turn.machine.route audio ∧
      turn.transition.notices = audio ++ event.listNotices world.directory.count := by
  intro turn audio
  obtain ⟨after, houtcome, heq⟩ := Turn.process_outcome world machine event
  obtain ⟨told, htold, hnotices⟩ := houtcome.told
  have hturn : turn = after.finish := heq
  have hnotices : turn.transition.notices = told ++ event.listNotices world.directory.count := by
    rw [hturn]; exact hnotices
  have haudio : audio = told := by
    show turn.transition.notices.filter (·.isAudio) = told
    rw [hnotices, List.filter_append, Event.filter_listNotices, List.append_nil]
    cases htold <;> simp [Route.isAudio_notice]
  rw [haudio, hturn]
  exact ⟨htold, hturn ▸ hnotices⟩

/-! ## Runs -/

namespace Moment

/-- The notices of the record. -/
def notices (moment : Moment) : List Notice := moment.transition?.elim [] (·.notices)

/-- The last notice about audio is that of the route; if an input leads to none the route is
    the one before. -/
theorem last_audio {moment : Moment}
    (h : ∀ directory route, moment.input ≠ .force directory route) :
    ((moment.notices.filter (·.isAudio)).getLast?).getD moment.before.route.notice =
      moment.after.route.notice := by
  obtain ⟨router, input⟩ := moment
  cases input with
  | event world event =>
    obtain ⟨htold, -⟩ := router.machine.process_notices world event
    show (((router.machine.process world event).transition.notices.filter
      (·.isAudio)).getLast?).getD router.machine.route.notice =
        (router.machine.process world event).machine.route.notice
    generalize List.filter _ _ = audio at htold ⊢
    cases htold with
    | nothing hroute => rw [hroute]; rfl
    | audio => rfl
  | force directory route => exact absurd rfl (h directory route)
  | listen listener => rfl

/-- A listener is told the notices of the record. -/
theorem deliveries_eq {moment : Moment} {listener : Nat}
    (h : moment.before.notifier.listener? = some listener) :
    moment.deliveries = moment.notices.map (⟨listener, ·, .held⟩) := by
  rw [deliveries, notices]
  cases moment.transition? with
  | none => rfl
  | some transition => simp [h]

end Moment

namespace Router

/-- The notices of a run, in order. -/
def notices (router : Router) (inputs : List Input) : List Notice :=
  (router.transitions inputs).flatMap (·.notices)

theorem notices_eq (router : Router) (inputs : List Input) :
    router.notices inputs = (router.moments inputs).flatMap (·.notices) := by
  rw [notices, transitions]
  induction router.moments inputs with
  | nil => rfl
  | cons moment moments ih =>
    rw [List.flatMap_cons, ← ih, Moment.notices, List.filterMap_cons]
    cases moment.transition? <;> rfl

/-- **The last notice about audio is that of the route.**  Before there is one it is that of the
    route at first. -/
theorem heard_run {inputs : List Input} (h : Unforced inputs) (router : Router) :
    (((router.notices inputs).filter (·.isAudio)).getLast?).getD router.route.notice =
      (router.run inputs).route.notice := by
  rw [notices_eq]
  induction inputs generalizing router with
  | nil => rfl
  | cons input inputs ih =>
    have hstep := @Moment.last_audio ⟨router, input⟩ fun directory route heq =>
      h directory route (heq ▸ List.mem_cons_self)
    have hrest := ih (fun directory route hmem => h directory route (.tail _ hmem))
      (router.take input)
    rw [moments, List.flatMap_cons, List.filter_append, List.getLast?_append, Option.getD_or,
      hstep]
    exact hrest

/-- A listener that is not replaced is told the notices of the run. -/
theorem deliveries_run {router : Router} {listener : Nat}
    (hlistener : router.notifier.listener? = some listener) {inputs : List Input}
    (hkept : ∀ input ∈ inputs, input.registered? = none) :
    (router.moments inputs).flatMap (·.deliveries) =
      (router.notices inputs).map (⟨listener, ·, .held⟩) := by
  rw [notices_eq]
  induction inputs generalizing router with
  | nil => rfl
  | cons input inputs ih =>
    have hafter : (router.take input).notifier.listener? = some listener := by
      have hstep := Moment.listener_after ⟨router, input⟩
      rw [hkept input List.mem_cons_self, hlistener] at hstep
      exact hstep
    rw [moments, List.flatMap_cons, List.flatMap_cons, List.map_append,
      Moment.deliveries_eq hlistener, ih hafter fun input hmem => hkept input (.tail _ hmem)]

/-- **The listener's view follows the route.**  In a run in which no route is entered from
    outside, whatever the stack answers: a transition carries at most one notice about audio, and
    does carry one if the route changes; it says that audio is connected exactly if the route
    is not off afterwards; after it there is what the event means for the list of devices, and
    nothing else.  So the last notice about audio is that of the route, and so it is with what a
    listener heard that was registered at first and stays registered. -/
theorem audio_notices (timeouts : Timeouts) (inputs : List Input) (h : Unforced inputs) :
    let start := Router.new timeouts
    let router := start.run inputs
    (∀ world event,
      let transition := (router.process world event).2.transition
      let audio := transition.notices.filter (·.isAudio)
      audio.length ≤ 1 ∧
      (transition.source ≠ transition.target → audio.length = 1) ∧
      (.audioConnected ∈ audio → transition.target ≠ .off) ∧
      (.audioDisconnected ∈ audio → transition.target = .off) ∧
      transition.notices = audio ++
        match event with
        | .deviceAdded _ =>
          .deviceListChanged :: if world.directory.count = 1 then [.deviceAvailable] else []
        | .deviceLost _ =>
          .deviceListChanged :: if world.directory.count = 0 then [.deviceUnavailable] else []
        | _ => []) ∧
    (((start.notices inputs).filter (·.isAudio)).getLast? = some .audioConnected ↔
      router.route ≠ .off) ∧
    ∀ listener rest, inputs = .listen listener :: rest →
      (∀ input ∈ rest, input.registered? = none) →
      router.notifier.calls = (start.notices inputs).map (⟨listener, ·, .held⟩) := by
  intro start router
  refine ⟨fun world event => ?_, ?_, ?_⟩
  · intro transition audio
    obtain ⟨htold, hnotices⟩ := router.machine.process_notices world event
    obtain ⟨-, hsource, htarget⟩ := router.machine.process_record world event
    have hsource : transition.source = router.machine.route := hsource
    have htold : Turn.Told transition.source transition.target audio := by
      rw [hsource, show transition.target = _ from htarget]; exact htold
    refine ⟨htold.length_eq.1, htold.length_eq.2, fun hmem => ?_, fun hmem => ?_, ?_⟩
    · exact Route.notice_eq_audioConnected_iff.1 (htold.eq_notice hmem).symm
    · exact Route.notice_eq_audioDisconnected_iff.1 (htold.eq_notice hmem).symm
    · cases event <;> exact hnotices
  · have hlast : (((start.notices inputs).filter (·.isAudio)).getLast?).getD .audioDisconnected =
        router.route.notice := heard_run h start
    rw [← Route.notice_eq_audioConnected_iff, ← hlast]
    cases ((start.notices inputs).filter (·.isAudio)).getLast? <;> simp
  · rintro listener rest rfl hkept
    have hcalls : router.notifier.calls = _ := calls_run start (.listen listener :: rest)
    have hrest : ((start.register listener).moments rest).flatMap (·.deliveries) = _ :=
      deliveries_run rfl hkept
    exact hcalls.trans hrest

/-- A device that disconnects while it is asked for audio, and another one that takes over and
    does not confirm. -/
theorem audio_notices_taken_over :
    let world := (Stack.ofDevices [⟨"A"⟩, ⟨"B"⟩]).surroundings
    let left := (Stack.ofDevices [⟨"B"⟩]).surroundings
    let start := Router.new (.of (.ofMillis 5000) (.ofMillis 500) 0)
    let inputs := [.listen 7, .event world (.connect none), .event left (.deviceLost ⟨"A"⟩),
      .event left (.expired .confirmation 2)]
    Unforced inputs ∧
      start.notices inputs = [.audioConnected, .audioConnected, .deviceListChanged,
        .audioDisconnected] ∧
      (start.run inputs).route = .off ∧
      (start.run inputs).notifier.calls = (start.notices inputs).map (⟨7, ·, .held⟩) := by
  intro world left start inputs
  have hunforced : Unforced inputs := by simp [Unforced, inputs]
  obtain ⟨-, -, hcalls⟩ := audio_notices _ inputs hunforced
  exact ⟨hunforced, by decide, by decide, hcalls 7 _ rfl (by simp [Input.registered?])⟩

end Router

end CallAudio
