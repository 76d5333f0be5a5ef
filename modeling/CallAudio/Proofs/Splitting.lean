/-
  Waits in two parts.

  A caller that waits twice in a row is in the same place as one that waits for both spans at
  once: alarms have the time at which they ring, and not what is left of their delay, and nothing
  that a replay does between two waits takes time or loses an alarm.

  * `Bench.untold`: a bench, but for what callers were told; nothing that follows depends on that;
  * `Bench.Rings.unique`, `Bench.Rings.trans`: what becomes of a bench up to some time is
    determined, and can be reached in two parts;
  * `Bench.Elapsed`: what becomes of a bench while time passes; `Bench.Elapsed.trans`: time passes
    in parts as it does at once; `Bench.Resting.wait`: so it passes during a wait;
  * `Replay.Awaits`: what a replay returns that goes on with a wait;
  * `Script.split_wait`: what follows for scripts.
-/
import CallAudio.Proofs.Atomic
import CallAudio.Proofs.Replay

namespace CallAudio

/-- Results that are the same after `f` are the same error, or values that are. -/
theorem cases_of_map_eq {ε α β : Type} {f : α → β} {result other : Except ε α}
    (h : result.map f = other.map f) :
    (∃ error, result = .error error ∧ other = .error error) ∨
      ∃ value value', result = .ok value ∧ other = .ok value' ∧ f value = f value' := by
  cases result with
  | error error =>
    cases other with
    | error other => exact .inl ⟨error, rfl, congrArg _ (Except.error.inj h).symm⟩
    | ok value => cases h
  | ok value =>
    cases other with
    | error error => cases h
    | ok other => exact .inr ⟨value, other, rfl, rfl, Except.ok.inj h⟩

namespace Bench

variable {timeouts : Timeouts} {actions : List Action} {bench middle other after : Bench}
  {alarm : Alarm} {time : Nat}

/-! ## What callers were told -/

/-- The bench as if no caller had been told anything. -/
def untold (bench : Bench) : Bench :=
  { bench with service := { bench.service with replies := [] } }

/-- All that a flush does is to answer. -/
theorem take_flush (bench : Bench) :
    bench.take .flush = { bench with service := bench.service.reply .flushed } := by
  show Bench.mk _ (bench.stack.record []) = _
  simp [Stack.record]

theorem untold_take_flush (bench : Bench) : (bench.take .flush).untold = bench.untold := by
  rw [take_flush]; rfl

theorem untold_handleNext (bench : Bench) :
    bench.untold.handleNext.untold = bench.handleNext.untold := by
  obtain ⟨_, -, heq⟩ := bench.service.handleNext_with_replies bench.stack.surroundings []
  have heq : bench.untold.service.handleNext bench.untold.stack.surroundings = _ := heq
  rw [handleNext, heq]
  rfl

theorem untold_handleMany (count : Nat) (bench : Bench) :
    (handleMany count bench.untold).untold = (handleMany count bench).untold := by
  induction count generalizing bench with
  | zero => rfl
  | succ count ih =>
    rw [handleMany, handleMany, ← ih, untold_handleNext, ih]

theorem untold_work (bench : Bench) : bench.untold.work.untold = bench.work.untold :=
  untold_handleMany _ bench

theorem untold_ring (bench : Bench) : bench.untold.ring.untold = bench.ring.untold := by
  have halarm : bench.untold.service.alarm = bench.service.alarm := rfl
  unfold ring
  rw [halarm]
  cases bench.service.alarm with
  | none => rfl
  | some alarm =>
    obtain ⟨_, -, heq⟩ := bench.service.act_with_replies (.ring alarm.number) []
    have heq : bench.untold.service.ring alarm.number = _ := heq
    dsimp only
    rw [heq]
    rfl

theorem untold_ringAlarm (bench : Bench) (alarm : Alarm) :
    (bench.untold.ringAlarm alarm).untold = (bench.ringAlarm alarm).untold := by
  have hadvance : bench.untold.advance alarm.due = (bench.advance alarm.due).untold := rfl
  rw [ringAlarm, hadvance, ← untold_work, untold_ring, untold_work, ringAlarm]

theorem untold_ringMany (time count : Nat) (bench : Bench) :
    (ringMany time count bench.untold).untold = (ringMany time count bench).untold := by
  induction count generalizing bench with
  | zero => rfl
  | succ count ih =>
    have halarm : bench.untold.service.alarm = bench.service.alarm := rfl
    rw [ringMany, ringMany, halarm]
    cases bench.service.alarm with
    | none => rfl
    | some alarm =>
      dsimp only
      split
      · rw [← ih, untold_ringAlarm, ih]
      · rfl

theorem untold_workBefore (bench : Bench) (time : Nat) :
    (bench.untold.workBefore time).untold = (bench.workBefore time).untold := by
  have hwork : bench.untold.ring.work.untold = bench.ring.work.untold := by
    rw [← untold_work, untold_ring, untold_work]
  have hahead : bench.untold.ring.work.alarmsAhead = bench.ring.work.alarmsAhead :=
    congrArg (·.service.router.machine.expiriesAhead + 1) hwork
  rw [workBefore, workBefore, ← untold_ringMany, hwork, hahead, untold_ringMany]

theorem enqueue_untold (bench : Bench) (message : Message) :
    bench.untold.enqueue message = (bench.enqueue message).map untold := by
  cases hrunning : bench.service.running <;>
    simp [enqueue, Service.enqueue, untold, hrunning] <;> rfl

theorem untold_flush (bench : Bench) :
    bench.untold.flush.map untold = bench.flush.map untold := by
  rw [flush, enqueue_untold, flush]
  cases bench.enqueue .flush with
  | error error => rfl
  | ok queued => exact congrArg Except.ok (untold_workBefore queued _)

theorem untold_sleep (bench : Bench) (ms : Nat) :
    (bench.untold.sleep ms).untold = (bench.sleep ms).untold := by
  unfold sleep
  split
  · rfl
  · exact congrArg (advance · _) (untold_workBefore bench _)

theorem untold_shutdown (bench : Bench) :
    bench.untold.shutdown.untold = bench.shutdown.untold := by
  rw [shutdown, enqueue_untold, shutdown]
  cases bench.enqueue .stop with
  | error error => rfl
  | ok queued => exact untold_workBefore queued _

/-! ## Up to some time -/

/-- What becomes of a bench up to some time is determined. -/
theorem Rings.unique (h : Rings time bench after) (hother : Rings time bench other) :
    after = other := by
  induction h with
  | rest hquiet =>
    cases hother with
    | rest => rfl
    | ring halarm hdue => exact absurd (hquiet _ (by simp [halarm])) (Nat.not_le_of_lt hdue)
  | ring halarm hdue _ ih =>
    cases hother with
    | rest hquiet => exact absurd (hquiet _ (by simp [halarm])) (Nat.not_le_of_lt hdue)
    | ring hsame _ hrest =>
      obtain rfl := List.singleton_inj.1 (halarm.symm.trans hsame)
      exact ih hrest

/-- Alarms that ring up to some time, and then those up to a later one. -/
theorem Rings.trans {later : Nat} (h : Rings time bench middle) (hlater : Rings later middle after)
    (hle : time ≤ later) : Rings later bench after := by
  induction h with
  | rest => exact hlater
  | ring halarm hdue _ ih => exact .ring halarm (hdue.trans_le hle) (ih hlater)

/-- Which alarms ring does not depend on what callers were told. -/
theorem Rings.untold (h : Rings time bench after) (hsame : bench.untold = other.untold) :
    ∃ last, Rings time other last ∧ after.untold = last.untold := by
  induction h generalizing other with
  | rest hquiet =>
    have halarms := congrArg (·.service.alarms) hsame
    exact ⟨other, .rest fun alarm hmem => hquiet alarm (halarms ▸ hmem), hsame⟩
  | @ring bench _ alarm halarm hdue _ ih =>
    have halarms := congrArg (·.service.alarms) hsame
    have hnext : (bench.ringAlarm alarm).untold = (other.ringAlarm alarm).untold := by
      rw [← untold_ringAlarm, hsame, untold_ringAlarm]
    obtain ⟨last, hrings, hlast⟩ := ih hnext
    exact ⟨last, .ring (halarms.symm.trans halarm) hdue hrings, hlast⟩

/-- Time that passes before the next alarm makes no difference to what follows, but that it has
    passed. -/
theorem Rings.of_advance {now : Nat} (h : Rings time (bench.advance now) after)
    (hresting : bench.Resting timeouts actions) (hquiet : bench.service.QuietUntil now) :
    ∃ last, Rings time bench last ∧ after = last.advance now := by
  have hadvanced := hresting.advance hquiet
  cases h with
  | rest hrest => exact ⟨bench, .rest hrest, rfl⟩
  | @ring _ _ alarm halarm hdue hrings =>
    have halarm : bench.service.alarms = [alarm] := halarm
    -- the alarm rings when it is due, at whatever time its bench was before
    have hring : (bench.advance now).ringAlarm alarm = bench.ringAlarm alarm := by
      rw [hadvanced.ringAlarm_eq halarm, hresting.ringAlarm_eq halarm]
      rfl
    rw [hring] at hrings
    have hresumed := hresting.ringAlarm halarm
    obtain ⟨_, _, -, hspan, -⟩ := hrings.span hresumed
    have hnow : now ≤ after.service.now := by
      refine (hquiet alarm (by simp [halarm])).trans (le_trans ?_ hspan.now_le)
      rw [hresting.ringAlarm_eq halarm, now_take]
      exact Nat.le_refl _
    refine ⟨after, .ring halarm hdue hrings, ?_⟩
    rw [Bench.advance, Service.advance, Nat.max_eq_left hnow]

/-- What has become of a bench when `ms` milliseconds have passed, but for what callers were
    told. -/
def Elapsed (ms : Nat) (bench after : Bench) : Prop :=
  ∃ last, Rings (bench.service.now + ms + 1) bench last ∧
    after.untold = (last.advance (bench.service.now + ms)).untold

theorem Elapsed.now_eq {ms : Nat} (h : bench.Elapsed ms after)
    (hresting : bench.Resting timeouts actions) :
    after.service.now = bench.service.now + ms := by
  obtain ⟨last, hrings, hafter⟩ := h
  have hlast := hrings.now_lt hresting (by omega)
  have hnow : after.service.now = max last.service.now (bench.service.now + ms) :=
    congrArg (·.service.now) hafter
  omega

/-- It is determined. -/
theorem Elapsed.unique {ms : Nat} (h : bench.Elapsed ms after) (hother : bench.Elapsed ms other) :
    after.untold = other.untold := by
  obtain ⟨last, hrings, hafter⟩ := h
  obtain ⟨last', hrings', hother⟩ := hother
  rw [hafter, hother, hrings.unique hrings']

/-- **Time passes in parts as it does at once.** -/
theorem Elapsed.trans {a b : Nat} (h : bench.Elapsed a middle) (hlater : middle.Elapsed b after)
    (hresting : bench.Resting timeouts actions) : bench.Elapsed (a + b) after := by
  have hnow := h.now_eq hresting
  obtain ⟨first, hfirst, hmiddle⟩ := h
  obtain ⟨second, hsecond, hafter⟩ := hlater
  rw [hnow] at hsecond hafter
  obtain ⟨_, _, hrests, -⟩ := hfirst.span hresting
  have hquiet : first.service.QuietUntil (bench.service.now + a) := fun alarm hmem =>
    (Nat.le_succ _).trans (hfirst.quiet alarm hmem)
  -- neither what callers were told meanwhile nor where the clock stood makes a difference
  obtain ⟨advanced, hadvanced, hsame⟩ := hsecond.untold hmiddle
  obtain ⟨last, hlast, rfl⟩ := hadvanced.of_advance hrests hquiet
  have hclock : (last.advance (bench.service.now + a)).advance (bench.service.now + a + b) =
      last.advance (bench.service.now + a + b) := by
    simp only [Bench.advance, Service.advance]
    rw [Nat.max_assoc, Nat.max_eq_right (by omega : bench.service.now + a ≤ _)]
  refine ⟨last, ?_, ?_⟩
  · rw [← Nat.add_assoc]
    exact hfirst.trans hlast (by omega)
  · have hpassed := congrArg (·.advance (bench.service.now + a + b)) hsame
    rw [← Nat.add_assoc, ← hclock]
    exact hafter.trans hpassed

/-- **A wait is time that passes**, and the flush behind it takes none. -/
theorem Resting.wait (h : bench.Resting timeouts actions) (hidle : bench.Idle) {ms : Nat}
    (hwait : (Replay.perform bench (.wait ms)).bind flush = .ok after) :
    bench.Elapsed ms after := by
  set wakes := bench.service.now + ms with hwakes
  obtain ⟨middle, hslept, hsleep, hnow⟩ : ∃ middle, Rings wakes bench middle ∧
      bench.sleep ms = middle.advance wakes ∧ max middle.service.now wakes = wakes := by
    by_cases hzero : ms = 0
    · have hnow : wakes = bench.service.now := by rw [hwakes, hzero, Nat.add_zero]
      have hmax : max bench.service.now wakes = bench.service.now := by omega
      refine ⟨bench, .rest (hnow ▸ h.punctual), ?_, by omega⟩
      rw [Bench.sleep, if_pos hzero, Bench.advance, Service.advance, hmax]
    · obtain ⟨middle, hslept, hsleep⟩ := h.sleep_rings hidle hzero
      rw [Duration.waitMillis_ofMillis] at hslept hsleep
      have hlt := hslept.now_lt h (by omega)
      exact ⟨middle, hslept, hsleep, Nat.max_eq_right hlt.le⟩
  obtain ⟨_, _, hrests, -⟩ := hslept.span h
  obtain ⟨flushed, hflush, hrings⟩ := (hrests.advance hslept.quiet).flush_rings
  obtain rfl : after = flushed := by
    have hperform : (bench.sleep ms).flush = .ok after := hwait
    rw [hsleep, hflush] at hperform
    exact (Except.ok.inj hperform).symm
  have hclock : (middle.advance wakes).service.now = wakes := hnow
  rw [hclock] at hrings
  obtain ⟨advanced, hadvanced, hsame⟩ := hrings.untold (untold_take_flush _)
  obtain ⟨last, hlast, rfl⟩ := hadvanced.of_advance hrests hslept.quiet
  exact ⟨last, hslept.trans hlast (Nat.le_succ _), hsame⟩

end Bench

/-! ## Replays -/

/-- Whether a step changes what the stack answers, and nothing else. -/
def Step.isArrangement : Step → Bool
  | setConnected _ | setActive _ | setAccepts _ => true
  | send _ | wait _ => false

namespace Replay

variable {timeouts : Timeouts} {script : Script} {steps : List Step} {step : Step}
  {actions : List Action} {replay other next : Replay} {transitions : List Transition}

/-- The replay as if no caller had been told anything. -/
def untold (replay : Replay) : Replay := { replay with bench := replay.bench.untold }

theorem untold_perform (bench : Bench) (step : Step) :
    ((perform bench.untold step).bind Bench.flush).map Bench.untold =
      ((perform bench step).bind Bench.flush).map Bench.untold := by
  cases step with
  | setConnected devices => exact Bench.untold_flush (onStack bench (·.replace devices))
  | setActive devices => exact Bench.untold_flush (onStack bench (·.setActive devices))
  | setAccepts accepts => exact Bench.untold_flush (onStack bench (·.setAccepts accepts))
  | wait ms =>
    show (bench.untold.sleep ms).flush.map Bench.untold = (bench.sleep ms).flush.map Bench.untold
    rw [← Bench.untold_flush, Bench.untold_sleep, Bench.untold_flush]
  | send event =>
    have hsend : (onStack bench.untold (·.foresee event)).enqueue (.event event) =
        ((onStack bench (·.foresee event)).enqueue (.event event)).map Bench.untold :=
      Bench.enqueue_untold (onStack bench (·.foresee event)) (.event event)
    rw [perform, perform, Bench.send, Bench.send, hsend]
    cases (onStack bench (·.foresee event)).enqueue (.event event) with
    | error error => rfl
    | ok sent => exact Bench.untold_flush sent

theorem collect_untold (replay : Replay) :
    replay.untold.collect = replay.collect.map untold := by
  have hdrain : replay.untold.bench.service.feed.drain replay.untold.subscriber =
    replay.bench.service.feed.drain replay.subscriber := rfl
  unfold collect
  rw [hdrain]
  generalize replay.bench.service.feed.drain replay.subscriber = drained
  obtain ⟨⟨missed, items⟩, subscriber⟩ := drained
  dsimp only
  split <;> rfl

theorem untold_play (replay : Replay) (step : Step) :
    (replay.untold.play step).map untold = (replay.play step).map untold := by
  have hbench : replay.untold.bench = replay.bench.untold := rfl
  rw [play, play, hbench]
  rcases cases_of_map_eq (untold_perform replay.bench step) with
    ⟨fault, hmine, htheirs⟩ | ⟨bench, other, hmine, htheirs, hsame⟩
  · rw [hmine, htheirs]
  · rw [hmine, htheirs]
    dsimp only
    rw [← collect_untold, ← collect_untold]
    exact congrArg (fun bench => ({ replay with bench } : Replay).collect) hsame

theorem untold_finish (replay : Replay) :
    replay.untold.finish.map untold = replay.finish.map untold := by
  rw [finish, finish, ← collect_untold, ← collect_untold]
  exact congrArg (fun bench => ({ replay with bench } : Replay).collect)
    (Bench.untold_shutdown replay.bench)

/-- What a replay returns in the end, that goes on with `steps`. -/
def conclude (replay : Replay) (steps : List Step) : Except ReplayError (List Transition) :=
  (steps.foldlM play replay).bind fun last => last.finish.map (·.collected)

theorem conclude_cons (replay : Replay) (step : Step) (steps : List Step) :
    replay.conclude (step :: steps) = (replay.play step).bind (·.conclude steps) := by
  rw [conclude, List.foldlM_cons]
  cases replay.play step <;> rfl

/-- What a replay returns does not depend on what callers were told. -/
theorem conclude_congr (h : replay.untold = other.untold) (steps : List Step) :
    replay.conclude steps = other.conclude steps := by
  induction steps generalizing replay other with
  | nil =>
    have hfinish : replay.finish.map untold = other.finish.map untold := by
      rw [← untold_finish, h, untold_finish]
    show replay.finish.map _ = other.finish.map _
    rcases cases_of_map_eq hfinish with
      ⟨fault, hmine, htheirs⟩ | ⟨last, last', hmine, htheirs, hsame⟩
    · rw [hmine, htheirs]
    · rw [hmine, htheirs]
      have hcollected : last.collected = last'.collected := congrArg (·.collected) hsame
      exact congrArg Except.ok hcollected
  | cons step steps ih =>
    have hplay : (replay.play step).map untold = (other.play step).map untold := by
      rw [← untold_play, h, untold_play]
    rw [conclude_cons, conclude_cons]
    rcases cases_of_map_eq hplay with
      ⟨fault, hmine, htheirs⟩ | ⟨next, next', hmine, htheirs, hsame⟩
    · rw [hmine, htheirs]
    · rw [hmine, htheirs]
      exact ih hsame

/-- Reading takes up all there is, and leaves the bench alone. -/
theorem collect_ok (h : replay.collect = .ok next) :
    next.bench = replay.bench ∧ next.subscriber = ⟨replay.bench.service.feed.published⟩ ∧
      replay.collected <+: next.collected := by
  unfold collect at h
  dsimp only [Feed.drain] at h
  split at h
  · cases h
    exact ⟨rfl, rfl, List.prefix_append _ _⟩
  · cases h

theorem play_ok (h : replay.play step = .ok next) :
    next.subscriber = ⟨next.bench.service.feed.published⟩ ∧
      replay.collected <+: next.collected := by
  unfold play at h
  split at h
  · obtain ⟨hbench, hsubscriber, hcollected⟩ := collect_ok h
    exact ⟨hbench ▸ hsubscriber, hcollected⟩
  · cases h

/-- What is collected is returned. -/
theorem collected_prefix (h : replay.conclude steps = .ok transitions) :
    replay.collected <+: transitions := by
  induction steps generalizing replay with
  | nil =>
    have h : replay.finish.map (·.collected) = .ok transitions := h
    cases hfinish : replay.finish with
    | error fault => rw [hfinish] at h; cases h
    | ok last =>
      rw [hfinish] at h
      obtain rfl := Except.ok.inj h
      exact (collect_ok hfinish).2.2
  | cons step steps ih =>
    rw [conclude_cons] at h
    cases hplay : replay.play step with
    | error fault => rw [hplay] at h; cases h
    | ok next =>
      rw [hplay] at h
      exact (play_ok hplay).2.trans (ih h)

/-! ## Steps of a replay -/

/-- What a replay returns that goes on with a wait of `ms` milliseconds: what is collected, then
    what becomes of the alarms that ring meanwhile, to which the stack answers as it does now, and
    then the rest. -/
def Awaits (replay : Replay) (ms : Nat) (transitions : List Transition) : Prop :=
  ∃ (ended : Replay) (rung : List Alarm) (more : List Action) (rest : List Transition),
    replay.play (.wait ms) = .ok ended ∧ replay.bench.Span (rung.map .rung) more ended.bench ∧
    transitions = replay.collected ++ replay.bench.service.router.transitions
      (rung.map fun alarm => .event replay.bench.stack.surroundings alarm.request.event) ++ rest

namespace Follows

/-- A replay that has read all there is has collected all transitions. -/
theorem current (h : replay.Follows timeouts script steps actions)
    (hread : replay.subscriber = ⟨replay.bench.service.feed.published⟩) :
    replay.collected = (Router.new timeouts).transitions
      ((Service.start (.new timeouts)).inputs actions) := by
  rw [h.collected, hread, ← h.length_transitions, List.take_length]

theorem conclude_ok (h : replay.Follows timeouts script steps actions)
    (hroom : 4 * timeouts.retries + 3 ≤ Feed.capacity) (rest : List Step) :
    ∃ transitions, replay.conclude rest = .ok transitions := by
  induction rest generalizing replay steps actions with
  | nil =>
    obtain ⟨last, hfinish, -⟩ := h.finish hroom
    refine ⟨last.collected, ?_⟩
    show replay.finish.map _ = _
    rw [hfinish]
    rfl
  | cons step rest ih =>
    obtain ⟨next, _, _, -, hplay, hnext, -⟩ := h.play hroom step
    rw [conclude_cons, hplay]
    exact ih hnext

/-- **A wait and another one are as good as one for both spans.** -/
theorem conclude_wait_wait (h : replay.Follows timeouts script steps actions)
    (hroom : 4 * timeouts.retries + 3 ≤ Feed.capacity) (a b : Nat) (rest : List Step) :
    replay.conclude (.wait a :: .wait b :: rest) = replay.conclude (.wait (a + b) :: rest) := by
  obtain ⟨first, _, _, hwait, hfirst, hmiddle, -, -⟩ := h.play hroom (.wait a)
  obtain ⟨second, _, _, hwait', hsecond, hparts, -, -⟩ := hmiddle.play hroom (.wait b)
  obtain ⟨whole, _, _, hwhole, honce, hended, -, hpublished⟩ := h.play hroom (.wait (a + b))
  have helapsed := h.resting.wait h.idle hwait
  have helapsed' := hmiddle.resting.wait hmiddle.idle hwait'
  have hbench : second.bench.untold = whole.bench.untold :=
    (helapsed.trans helapsed' h.resting).unique (h.resting.wait h.idle hwhole)
  have hfeed : second.bench.service.feed = whole.bench.service.feed :=
    congrArg (·.service.feed) hbench
  obtain ⟨-, hcollected⟩ := play_ok hfirst
  obtain ⟨hread, hcollected'⟩ := play_ok hsecond
  obtain ⟨hread', hprefix⟩ := play_ok honce
  -- the feed has room for the whole wait, so it still keeps what both have read since
  have hsame : whole.collected = second.collected := by
    have hcarries := hparts.resting.carries
    have hcarries' := hended.resting.carries
    rw [← hparts.current hread, hfeed] at hcarries
    rw [← hended.current hread'] at hcarries'
    have hlength : replay.collected.length = replay.subscriber.next := by
      rw [h.collected, List.length_take, h.length_transitions, Nat.min_eq_left h.subscribed]
    refine @Feed.Carries.unique _ _ _ _ replay.collected.length hcarries' hcarries ?_ ?_
    · rw [← List.prefix_iff_eq_take.1 hprefix,
        ← List.prefix_iff_eq_take.1 (hcollected.trans hcollected')]
    · rw [← hcarries'.published, hlength]
      exact hpublished
  have huntold : second.untold = whole.untold := by
    have hsubscriber : second.subscriber = whole.subscriber := by rw [hread, hread', hfeed]
    rw [untold, untold, hbench, hsubscriber, hsame]
  rw [conclude_cons, hfirst, conclude_cons, honce]
  show (first.conclude _) = whole.conclude _
  rw [conclude_cons, hsecond]
  exact conclude_congr huntold rest

/-- A change of the stack takes effect at once, and is all that happens. -/
theorem play_arrangement (h : replay.Follows timeouts script steps actions)
    (hread : replay.subscriber = ⟨replay.bench.service.feed.published⟩)
    (hstep : step.isArrangement = true) :
    replay.play step = .ok { replay with bench := {
      service := replay.bench.service.reply .flushed
      stack := step.arrange replay.bench.stack } } := by
  have hperform : perform replay.bench step = .ok (replay.bench.arrange step) := by
    cases step with
    | send event => cases hstep
    | wait ms => cases hstep
    | _ => rfl
  have harranged : (replay.bench.arrange step).Resting timeouts actions := h.resting.onStack _
  obtain ⟨after, hflush, hrings⟩ := harranged.flush_rings
  have hflushed : (perform replay.bench step).bind Bench.flush = .ok after := by
    rw [hperform]
    exact hflush
  rw [Bench.take_flush] at hrings
  -- the bench is idle, so no alarm rings
  obtain rfl := hrings.unique (.rest h.idle)
  -- and nothing is left to read
  have hcarries := h.resting.carries
  rw [← h.current hread] at hcarries
  have hplace : (⟨replay.collected.length⟩ : Subscriber) = replay.subscriber := by
    rw [hread, hcarries.published]
  have hnext := congrArg Subscriber.next hplace
  have hcollect := @collect_eq { replay with bench := { replay.bench.arrange step with
    service := replay.bench.service.reply .flushed } } replay.collected hcarries
    (by rw [← hnext, List.take_length]) hnext.ge (hnext.le.trans (Nat.le_add_right _ _))
  rw [hplace] at hcollect
  rw [Replay.play, hflushed]
  exact hcollect

/-- What a replay returns that has read all there is and goes on with a wait. -/
theorem awaits (h : replay.Follows timeouts script steps actions)
    (hroom : 4 * timeouts.retries + 3 ≤ Feed.capacity)
    (hread : replay.subscriber = ⟨replay.bench.service.feed.published⟩) (ms : Nat)
    (rest : List Step) :
    ∃ transitions, replay.conclude (.wait ms :: rest) = .ok transitions ∧
      replay.Awaits ms transitions := by
  obtain ⟨ended, rung, more, -, hplay, hended, hplayed, -⟩ := h.play hroom (.wait ms)
  obtain ⟨transitions, hconclude⟩ := hended.conclude_ok hroom rest
  obtain ⟨later, rfl⟩ := collected_prefix hconclude
  have hspan : replay.bench.Span (rung.map .rung) more ended.bench := hplayed.span
  refine ⟨_, by rw [conclude_cons, hplay]; exact hconclude, ended, rung, more, later, hplay, hspan,
    ?_⟩
  rw [hended.current (play_ok hplay).1, h.resting.inputs_append hspan, Router.transitions_append,
    ← h.current hread, ← h.resting.router_eq, List.map_map]
  rfl

end Follows

end Replay

namespace Script

variable {timeouts : Timeouts} {script : Script}

theorem replayed_append (script : Script) (timeouts : Timeouts) (first rest : List Step) :
    script.replayed timeouts (first ++ rest) =
      (script.replayed timeouts first).bind fun replay => rest.foldlM Replay.play replay := by
  simp only [replayed, List.foldlM_append]
  cases Replay.start script timeouts <;> rfl

theorem run_append (script : Script) (timeouts : Timeouts) (first rest : List Step) :
    run { script with steps := first ++ rest } timeouts =
      (script.replayed timeouts first).bind (·.conclude rest) := by
  rw [run_eq]
  show (script.replayed timeouts (first ++ rest)).bind _ = _
  rw [replayed_append]
  cases script.replayed timeouts first <;> rfl

/-- **Splitting a wait changes nothing.**  Whatever a script does before and after, two waits in
    a row record the same transitions as one wait for both spans, or fail for the same reason if
    the first route is refused.  Otherwise a step between the two waits that changes what the
    stack answers leaves all as it is but the stack: what is recorded up to there is recorded as
    without the step, and the service goes on from the same state.  What follows with the step and
    without it are the transitions of the alarms that ring during the second wait, to which the
    stack answers as changed or as before. -/
theorem split_wait (script : Script) (confirmation backoff : Duration) (asked : Nat)
    (before after : List Step) (a b : Nat) :
    let timeouts := Timeouts.of confirmation backoff asked
    let recorded (steps : List Step) := run { script with steps } timeouts
    recorded (before ++ .wait a :: .wait b :: after) =
        recorded (before ++ .wait (a + b) :: after) ∧
      ((∀ device, script.initial.device? = some device → device ∈ script.connected) →
        ∃ reached, script.replayed timeouts (before ++ [.wait a]) = .ok reached ∧
          (∃ transitions,
            recorded (before ++ .wait a :: .wait b :: after) = .ok transitions ∧
            reached.Awaits b transitions) ∧
          ∀ step, step.isArrangement = true →
            let changed : Replay := { reached with bench := {
              service := reached.bench.service.reply .flushed
              stack := step.arrange reached.bench.stack } }
            script.replayed timeouts (before ++ [.wait a, step]) = .ok changed ∧
            ∃ transitions,
              recorded (before ++ .wait a :: step :: .wait b :: after) = .ok transitions ∧
              changed.Awaits b transitions) := by
  intro timeouts recorded
  have hroom := Timeouts.room_of confirmation backoff asked
  by_cases hknown : ∀ device, script.initial.device? = some device → device ∈ script.connected
  · have hcovers := script.covers_initial hknown
    obtain ⟨replay, actions, hreplayed, h⟩ := follows_replayed hcovers hroom before
    obtain ⟨reached, _, more, -, hplay, hreached, -⟩ := h.play hroom (.wait a)
    obtain ⟨hread, -⟩ := Replay.play_ok hplay
    have hwaited : script.replayed timeouts (before ++ [.wait a]) = .ok reached := by
      rw [replayed_concat, hreplayed]
      exact hplay
    have hsplit (steps : List Step) :
        recorded (before ++ .wait a :: steps) = reached.conclude steps := by
      show run _ _ = _
      rw [List.append_cons, run_append, hwaited]
      rfl
    refine ⟨?_, fun _ => ⟨reached, hwaited, ?_, fun step hstep => ?_⟩⟩
    · show run _ _ = run _ _
      rw [run_append, run_append, hreplayed]
      exact h.conclude_wait_wait hroom a b after
    · rw [hsplit]
      exact hreached.awaits hroom hread b after
    · intro changed
      have hchanged := hreached.play_arrangement hread hstep
      obtain ⟨next, _, _, -, hnext, hfollows, -⟩ := hreached.play hroom step
      obtain rfl : next = changed := Except.ok.inj (hnext.symm.trans hchanged)
      refine ⟨?_, ?_⟩
      · rw [List.append_cons, replayed_concat, hwaited]
        exact hnext
      · rw [hsplit, Replay.conclude_cons, hnext]
        exact hfollows.awaits hroom (Replay.play_ok hnext).1 b after
  · obtain ⟨device, hdevice⟩ := not_forall.1 hknown
    obtain ⟨hdevice, hunknown⟩ := Classical.not_imp.1 hdevice
    obtain ⟨hstart, -⟩ := script.start_refused timeouts hdevice hunknown
    have hrefused : script.replayed timeouts before =
        .error (.invalidInitialState (.refused (.unknownDevice device))) := by
      rw [replayed, hstart]; rfl
    refine ⟨?_, fun hsome => absurd hsome hknown⟩
    show run _ _ = run _ _
    rw [run_append, run_append, hrefused]
    rfl

/-- Audio is asked for, and not confirmed when the first of two waits is over; the retry during the
    second one is refused if the headset was told to meanwhile. -/
theorem split_wait_refused_retry :
    let timeouts := Timeouts.of (.ofMillis 5000) (.ofMillis 500) 1
    let script : Script := { connected := [⟨"A"⟩] }
    let recorded (steps : List Step) := run { script with steps } timeouts
    let asked : Step := .send (.connect none)
    let transitions? (result : Except ReplayError (List Transition)) :=
      result.toOption.map (·.map fun transition => (transition.event, transition.target))
    recorded [asked, .wait 5000, .wait 600, .wait 5000] =
        recorded [asked, .wait 5600, .wait 5000] ∧
      transitions? (recorded [asked, .wait 5600, .wait 5000]) = some
        [(.connect, .connecting ⟨"A"⟩), (.expired .confirmation, .off),
          (.expired .retry, .connecting ⟨"A"⟩), (.expired .confirmation, .off)] ∧
      ∃ reached transitions, script.replayed timeouts [asked, .wait 5000] = .ok reached ∧
        recorded [asked, .wait 5000, .setAccepts false, .wait 600, .wait 5000] = .ok transitions ∧
        reached.collected <+: transitions ∧
        transitions? (.ok transitions) = some [(.connect, .connecting ⟨"A"⟩),
          (.expired .confirmation, .off), (.expired .retry, .off)] := by
  intro timeouts script recorded asked transitions?
  obtain ⟨hsame, hknown⟩ :=
    script.split_wait (.ofMillis 5000) (.ofMillis 500) 1 [asked] [.wait 5000] 5000 600
  obtain ⟨reached, hreached, -, harranged⟩ := hknown fun device hdevice => by cases hdevice
  obtain ⟨-, transitions, hrecorded, ended, rung, more, rest, -, -, htransitions⟩ :=
    harranged (.setAccepts false) rfl
  have hrefused : transitions? (recorded [asked, .wait 5000, .setAccepts false, .wait 600,
      .wait 5000]) = some [(.connect, .connecting ⟨"A"⟩), (.expired .confirmation, .off),
        (.expired .retry, .off)] := by decide
  have hrecorded : recorded [asked, .wait 5000, .setAccepts false, .wait 600, .wait 5000] =
      .ok transitions := hrecorded
  refine ⟨hsame, by decide, reached, transitions, hreached, hrecorded, ?_, ?_⟩
  · rw [htransitions, List.append_assoc]
    exact List.prefix_append _ _
  · rw [← hrefused, hrecorded]

end Script

end CallAudio
