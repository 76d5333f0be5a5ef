/-
  Retries, and what comes of expiries alone.

  The number of retries spent goes from an attempt to the timer for its confirmation, from there
  to the timer for the next attempt, and back to an attempt.  A refusal takes the same way without
  the first timer.

  * `Planned`: the timer that an attempt can leave outstanding;
  * `Router.budgeted_run`: the outstanding timer is within the retries allowed;
  * `Moment.spends`: an expiry that has an effect uses up some of what is ahead,
    `Machine.expiriesAhead`, and also of `Machine.attemptsAhead` if it leads to an attempt;
  * `Router.spends_run`: so it is with any number of expiries;
  * `Router.pending_of_delivered`: nothing is outstanding once every timer has been delivered;
  * `Router.bounded_retries`: what follows for every router that can be reached.
-/
import CallAudio.Proofs.Stale

namespace CallAudio

/-- What an attempt on `device`, for which `attempt` retries are spent, can leave outstanding. -/
inductive Planned (retries : Nat) (device : Device) (attempt : Nat) : Option PendingTimer → Prop
  /-- Nothing. -/
  | nothing : Planned retries device attempt none
  /-- The device has to confirm. -/
  | confirmation (generation : UInt64) :
      Planned retries device attempt (some ⟨generation, .confirmation, device, attempt⟩)
  /-- The attempt failed, and there will be another one. -/
  | retry (generation : UInt64) (hleft : attempt < retries) :
      Planned retries device attempt (some ⟨generation, .retry, device, attempt + 1⟩)

/-- The outstanding timer is within the retries allowed, and is for a retry only if one is
    counted. -/
def Budgeted (retries : Nat) (pending : Option PendingTimer) : Prop :=
  ∀ timer, pending = some timer →
    timer.attempt ≤ retries ∧ (timer.kind = .retry → 1 ≤ timer.attempt)

theorem budgeted_none (retries : Nat) : Budgeted retries none := by
  intro timer hpending
  cases hpending

theorem Planned.budgeted {retries attempt : Nat} {device : Device}
    {pending : Option PendingTimer} (h : Planned retries device attempt pending)
    (hattempt : attempt ≤ retries) : Budgeted retries pending := by
  intro timer hpending
  cases h with
  | nothing => cases hpending
  | confirmation => cases hpending; exact ⟨hattempt, fun hkind => (by cases hkind)⟩
  | retry _ hleft => cases hpending; exact ⟨hleft, fun _ => Nat.le_add_left 1 attempt⟩

namespace Turn

variable {world : Surroundings} {turn after : Turn} {device : Device} {attempt : Nat}
  {event : Event}

/-! ## What is outstanding after an event -/

theorem Settled.planned (h : Settled world device attempt turn after)
    (hpending : turn.machine.pending = none) :
    Planned turn.machine.timeouts.retries device attempt after.machine.pending ∧
      ∀ next, after.machine.pending = some next → next.kind = .retry := by
  cases h with
  | active | ended => simp [hpending, Planned.nothing]
  | retry _ hleft => exact ⟨.retry _ hleft, fun next hnext => by cases hnext; rfl⟩

theorem Attempted.planned (h : Attempted world device attempt turn after) :
    Planned turn.machine.timeouts.retries device attempt after.machine.pending := by
  cases h with
  | accepted => exact .confirmation _
  | refused _ hsettled => simpa using (hsettled.planned (by simp)).1

theorem Vacated.budgeted (h : Vacated world device turn after) :
    Budgeted turn.machine.timeouts.retries after.machine.pending := by
  cases h with
  | handOver _ hattempted => simpa using hattempted.planned.budgeted (Nat.zero_le _)
  | off => simpa using budgeted_none _

/-- Every event keeps the outstanding timer within the retries allowed. -/
theorem Outcome.budgeted (h : Outcome world turn event after)
    (hbudgeted : Budgeted turn.machine.timeouts.retries turn.machine.pending) :
    Budgeted turn.machine.timeouts.retries after.machine.pending := by
  cases h with
  | connect _ _ hattempted => simpa using hattempted.planned.budgeted (Nat.zero_le _)
  | switch _ _ _ hattempted => exact hattempted.planned.budgeted (Nat.zero_le _)
  | noTarget | unknownTarget | stayOff | disconnect | lostPending | confirmed | retryGone =>
    simpa using budgeted_none _
  | routed | unknownSwitch | added | lostOther | confirmedAgain | droppedOther | stale =>
    simpa using hbudgeted
  | lost _ hvacated => simpa using hvacated.budgeted
  | dropped _ hvacated => simpa using hvacated.budgeted
  | timedOut hmatching hsettled =>
    obtain ⟨hpending, -⟩ := matching?_eq_some hmatching
    exact (hsettled.planned rfl).1.budgeted (hbudgeted _ hpending).1
  | retried hmatching _ hattempted =>
    obtain ⟨hpending, -⟩ := matching?_eq_some hmatching
    exact hattempted.planned.budgeted (hbudgeted _ hpending).1

end Turn

/-- Every input keeps the outstanding timer within the retries allowed. -/
theorem Moment.budgeted_after {moment : Moment} {retries : Nat}
    (hretries : moment.before.machine.timeouts.retries = retries)
    (h : Budgeted retries moment.before.machine.pending) :
    Budgeted retries moment.after.machine.pending := by
  subst hretries
  obtain ⟨router, input⟩ := moment
  cases input with
  | event world event =>
    obtain ⟨after, houtcome, heq⟩ := Turn.process_outcome world router.machine event
    have hafter : (router.take (.event world event)).machine = after.finish.machine :=
      congrArg Turn.machine heq
    show Budgeted _ (router.take (.event world event)).machine.pending
    rw [hafter]
    exact houtcome.budgeted h
  | force directory route =>
    cases hforce : router.machine.force directory route with
    | error fault => simpa [Moment.after, Router.take, Router.force, hforce, Except.map] using h
    | ok result =>
      have hafter : (router.take (.force directory route)).machine = result.1 := by
        simp [Router.take, Router.force, hforce, Except.map]
      rw [Moment.after, hafter, ← Machine.enter_of_force hforce]
      cases route with
      | off | connected => exact budgeted_none _
      | connecting device => exact (Planned.confirmation _).budgeted (Nat.zero_le _)
  | listen listener => exact h

/-- **After every run the outstanding timer is within the retries allowed.** -/
theorem Router.budgeted_run (timeouts : Timeouts) (inputs : List Input) :
    Budgeted timeouts.retries ((Router.new timeouts).run inputs).machine.pending := by
  induction inputs using List.reverseRecOn with
  | nil => exact budgeted_none _
  | append_singleton inputs input ih =>
    have htimeouts := (accounted_run timeouts inputs).timeouts_eq
    rw [run_append]
    exact @Moment.budgeted_after ⟨_, input⟩ _ (congrArg Timeouts.retries htimeouts) ih

/-! ## What is ahead -/

namespace Machine

/-- How many more attempts the outstanding timer can lead to. -/
def attemptsAhead (machine : Machine) : Nat :=
  match machine.pending with
  | none => 0
  | some timer =>
    let retriesLeft := machine.timeouts.retries - timer.attempt
    match timer.kind with
    | .confirmation => retriesLeft
    | .retry => retriesLeft + 1

variable {machine : Machine}

/-- Within the retries allowed there is not more ahead than they allow. -/
theorem ahead_le (h : Budgeted machine.timeouts.retries machine.pending) :
    machine.attemptsAhead ≤ machine.timeouts.retries ∧
      machine.expiriesAhead ≤ 2 * machine.timeouts.retries + 1 := by
  unfold attemptsAhead expiriesAhead
  cases hpending : machine.pending with
  | none => simp
  | some timer =>
    obtain ⟨hle, hretry⟩ := h timer hpending
    obtain ⟨generation, kind, device, attempt⟩ := timer
    cases kind with
    | confirmation => dsimp only at hle ⊢; omega
    | retry =>
      have hspent := hretry rfl
      dsimp only at hle hspent ⊢
      omega

/-- What is ahead after an attempt, and if no confirmation is awaited after it. -/
theorem ahead_of_planned {device : Device} {attempt : Nat}
    (h : Planned machine.timeouts.retries device attempt machine.pending) :
    machine.attemptsAhead ≤ machine.timeouts.retries - attempt ∧
      machine.expiriesAhead ≤ 2 * (machine.timeouts.retries - attempt) + 1 ∧
      ((∀ next, machine.pending = some next → next.kind = .retry) →
        machine.expiriesAhead ≤ 2 * (machine.timeouts.retries - attempt)) := by
  unfold attemptsAhead expiriesAhead
  generalize machine.pending = pending at h ⊢
  cases h with
  | nothing => simp
  | confirmation => simp
  | retry _ hleft => dsimp only; omega

/-- What is outstanding after the expiry of the outstanding timer. -/
theorem process_planned (hsound : machine.Sound) {timer : PendingTimer}
    (hpending : machine.pending = some timer) (world : Surroundings) :
    let next := (machine.process world (.expired timer.kind timer.generation)).machine.pending
    Planned machine.timeouts.retries timer.device timer.attempt next ∧
      (timer.kind = .confirmation → ∀ after, next = some after → after.kind = .retry) := by
  have hmatch := hsound.matching? hpending (.expired timer.kind)
  obtain ⟨after, houtcome, heq⟩ :=
    Turn.process_outcome world machine (.expired timer.kind timer.generation)
  rw [heq]
  obtain ⟨generation, kind, device, attempt⟩ := timer
  cases houtcome with
  | stale hstale => exact absurd (hstale.symm.trans hmatch) (by simp)
  | timedOut hmatching hsettled =>
    cases hmatching.symm.trans hmatch
    obtain ⟨hplanned, hretry⟩ := hsettled.planned rfl
    exact ⟨hplanned, fun _ => hretry⟩
  | retried hmatching _ hattempted =>
    cases hmatching.symm.trans hmatch
    exact ⟨hattempted.planned, fun hkind => (by cases hkind)⟩
  | retryGone hmatching =>
    cases hmatching.symm.trans hmatch
    exact ⟨.nothing, fun hkind => (by cases hkind)⟩

/-- What `effects` expiries that had an effect used up, and the commands that came of them. -/
structure Spends (before after : Machine) (effects : Nat) (commands : List Command) : Prop where
  /-- Each expiry is one of those that were ahead. -/
  expiries : effects + after.expiriesAhead ≤ before.expiriesAhead
  /-- Each command is one of the attempts that were ahead. -/
  attempts : commands.length + after.attemptsAhead ≤ before.attemptsAhead
  /-- The attempts are on the device of the timer that was outstanding. -/
  addressed : ∀ command ∈ commands,
    ∃ timer, before.pending = some timer ∧ command = .connectAudio timer.device
  /-- And so is what is outstanding afterwards. -/
  device : ∀ next, after.pending = some next →
    ∃ timer, before.pending = some timer ∧ next.device = timer.device

variable {before after last : Machine} {effects more : Nat} {commands others : List Command}

theorem spends_refl (machine : Machine) : Spends machine machine 0 [] where
  expiries := by simp
  attempts := by simp
  addressed command hmem := by cases hmem
  device next hnext := ⟨next, hnext, rfl⟩

theorem Spends.trans (h : Spends before after effects commands)
    (hrest : Spends after last more others) :
    Spends before last (effects + more) (commands ++ others) where
  expiries := by have := h.expiries; have := hrest.expiries; omega
  attempts := by
    have := h.attempts; have := hrest.attempts
    rw [List.length_append]; omega
  addressed command hmem := by
    rcases List.mem_append.1 hmem with hfirst | hlater
    · exact h.addressed command hfirst
    · obtain ⟨next, hnext, rfl⟩ := hrest.addressed command hlater
      obtain ⟨timer, hpending, hdevice⟩ := h.device next hnext
      exact ⟨timer, hpending, by rw [hdevice]⟩
  device next hnext := by
    obtain ⟨middle, hmiddle, hdevice⟩ := hrest.device next hnext
    obtain ⟨timer, hpending, hsame⟩ := h.device middle hmiddle
    exact ⟨timer, hpending, hdevice.trans hsame⟩

/-- **The expiry of the outstanding timer uses up some of what is ahead.** -/
theorem process_spends (hsound : machine.Sound) {timer : PendingTimer}
    (hpending : machine.pending = some timer) (world : Surroundings) :
    let turn := machine.process world (.expired timer.kind timer.generation)
    Spends machine turn.machine 1 turn.issued := by
  intro turn
  obtain ⟨hchange, hconfirmation, hretry⟩ := process_outstanding hsound hpending world
  obtain ⟨hplanned, hfailed⟩ := process_planned hsound hpending world
  have htimeouts : turn.machine.timeouts = machine.timeouts := hchange.timeouts_eq
  have hplanned : Planned turn.machine.timeouts.retries timer.device timer.attempt
      turn.machine.pending := htimeouts.symm ▸ hplanned
  obtain ⟨hattempts, hexpiries, hended⟩ := ahead_of_planned hplanned
  rw [htimeouts] at hattempts hexpiries hended
  have hdevice : ∀ next, turn.machine.pending = some next → next.device = timer.device := by
    intro next hnext
    rw [hnext] at hplanned
    cases hplanned <;> rfl
  have hspent : 1 + turn.machine.expiriesAhead ≤ machine.expiriesAhead ∧
      turn.issued.length + turn.machine.attemptsAhead ≤ machine.attemptsAhead := by
    rw [expiriesAhead.eq_def machine, attemptsAhead.eq_def machine, hpending]
    dsimp only
    cases hkind : timer.kind with
    | confirmation =>
      have hissued : turn.issued = [] := (hconfirmation hkind).2
      have hended := hended (hfailed hkind)
      rw [hissued]
      simp only [List.length_nil]
      omega
    | retry =>
      have hissued : turn.issued.length ≤ 1 := by
        rw [show turn.issued = _ from hretry hkind]; split <;> simp
      dsimp only
      omega
  have haddressed : ∀ command ∈ turn.issued, command = .connectAudio timer.device := by
    intro command hmem
    cases hkind : timer.kind with
    | confirmation => rw [show turn.issued = [] from (hconfirmation hkind).2] at hmem; cases hmem
    | retry =>
      rw [show turn.issued = _ from hretry hkind] at hmem
      split at hmem
      · exact List.mem_singleton.1 hmem
      · cases hmem
  exact ⟨hspent.1, hspent.2, fun command hmem => ⟨timer, hpending, haddressed command hmem⟩,
    fun next hnext => ⟨timer, hpending, hdevice next hnext⟩⟩

end Machine

/-! ## Expiries alone -/

/-- Whether an input is the expiry of a timer. -/
def Input.isExpiry : Input → Bool
  | .event _ e => e.isTimer
  | .force _ _ | .listen _ => false

namespace Moment

/-- Whether anything comes of an input: another router, or a turn that is not as it started. -/
def hasEffect (moment : Moment) : Bool :=
  moment.after != moment.before ||
    moment.turn?.any fun turn => turn != .start moment.before.machine turn.transition.event

variable {moment : Moment}

theorem hasEffect_of_isStale (h : moment.isStale = true) : moment.hasEffect = false := by
  obtain ⟨world, kind, generation, hinput, hnone⟩ := eq_expired_of_isStale h
  rw [hasEffect, after_of_isStale h, turn?, hinput]
  simp only [Router.process_stale hnone]
  simp [Turn.start, Transition.start, Router.route]

/-- An expiry is that of the outstanding timer, or of one that is not outstanding. -/
theorem expiry_cases (h : moment.input.isExpiry = true) :
    moment.isStale = true ∨
      ∃ world timer, moment.input = .event world (.expired timer.kind timer.generation) ∧
        moment.before.machine.pending = some timer := by
  obtain ⟨router, input⟩ := moment
  cases input with
  | force directory route => cases h
  | listen listener => cases h
  | event world event =>
    cases event with
    | expired kind generation =>
      cases houtstanding : router.machine.outstanding? kind generation with
      | none => exact .inl (Option.isNone_iff_eq_none.2 houtstanding)
      | some timer =>
        obtain ⟨hpending, rfl, rfl⟩ := Machine.outstanding?_eq_some.1 houtstanding
        exact .inr ⟨world, timer, rfl, hpending⟩
    | _ => cases h

/-- **An expiry that has an effect uses up some of what is ahead.** -/
theorem spends (hsound : moment.before.machine.Sound) (h : moment.input.isExpiry = true) :
    Machine.Spends moment.before.machine moment.after.machine
      (if moment.hasEffect then 1 else 0) moment.issued := by
  rcases expiry_cases h with hstale | ⟨world, timer, hinput, hpending⟩
  · rw [hasEffect_of_isStale hstale, after_of_isStale hstale, issued_of_isStale hstale]
    exact Machine.spends_refl _
  · obtain ⟨router, input⟩ := moment
    cases hinput
    have hspends := Machine.process_spends hsound hpending world
    refine ⟨?_, hspends.attempts, hspends.addressed, hspends.device⟩
    refine (Nat.add_le_add_right ?_ _).trans hspends.expiries
    split <;> simp

end Moment

namespace Router

variable {router : Router} {inputs : List Input}

/-- **Expiries alone use up what is ahead.** -/
theorem spends_run (hsound : router.machine.Sound)
    (h : ∀ input ∈ inputs, input.isExpiry = true) :
    Machine.Spends router.machine (router.run inputs).machine
      ((router.moments inputs).countP (·.hasEffect)) (router.commands inputs) := by
  induction inputs generalizing router with
  | nil => exact Machine.spends_refl _
  | cons input inputs ih =>
    set moment : Moment := ⟨router, input⟩
    have hstep := moment.spends hsound (h input List.mem_cons_self)
    have hrest := ih (moment.sound_after hsound) fun input hmem => h input (.tail _ hmem)
    have htrans := hstep.trans hrest
    rw [moments, List.countP_cons, commands, moments, List.flatMap_cons, Nat.add_comm]
    exact htrans

/-- Without an outstanding timer no expiry has an effect. -/
theorem rest_run (hpending : router.machine.pending = none)
    (h : ∀ input ∈ inputs, input.isExpiry = true) :
    ∀ moment ∈ router.moments inputs, moment.hasEffect = false := by
  induction inputs with
  | nil => intro moment hmem; cases hmem
  | cons input inputs ih =>
    set first : Moment := ⟨router, input⟩
    have hstale : first.isStale = true := by
      rcases first.expiry_cases (h input List.mem_cons_self) with hstale | ⟨_, _, _, hsome⟩
      · exact hstale
      · exact absurd (hpending.symm.trans hsome) (by simp)
    have hafter : router.take input = router := Moment.after_of_isStale hstale
    intro moment hmem
    rw [moments, List.mem_cons, hafter] at hmem
    rcases hmem with rfl | hmem
    · exact Moment.hasEffect_of_isStale hstale
    · exact ih (fun input hmem => h input (.tail _ hmem)) moment hmem

end Router

/-! ## Delivery of all that is armed -/

/-- Whether a timer is delivered by one of `inputs`. -/
def TimerRequest.expiresIn (request : TimerRequest) (inputs : List Input) : Bool :=
  inputs.any fun
    | .event _ event => event = request.event
    | .force _ _ | .listen _ => false

theorem TimerRequest.of_expiresIn_cons {request : TimerRequest} {input : Input}
    {inputs : List Input} (h : request.expiresIn (input :: inputs) = true) :
    (∃ world, input = .event world request.event) ∨ request.expiresIn inputs = true := by
  rw [expiresIn, List.any_cons, Bool.or_eq_true] at h
  refine h.imp_left fun hinput => ?_
  cases input with
  | event world event => exact ⟨world, by rw [of_decide_eq_true hinput]⟩
  | force directory route => cases hinput
  | listen listener => cases hinput

namespace Router

variable {router : Router} {inputs : List Input}

/-- Whether every timer that is armed by an input is delivered by a later one. -/
def armedDelivered (router : Router) : List Input → Bool
  | [] => true
  | input :: inputs =>
    (Moment.armed? ⟨router, input⟩).all (·.expiresIn inputs) &&
      (router.take input).armedDelivered inputs

/-- Whether every timer that is outstanding, or armed by an input, is delivered later. -/
def delivered (router : Router) (inputs : List Input) : Bool :=
  router.machine.request?.all (·.expiresIn inputs) && router.armedDelivered inputs

/-- What is delivered in a run is delivered in the rest of it, if the first input is past. -/
theorem delivered_tail {input : Input} (hsound : router.machine.Sound)
    (h : router.delivered (input :: inputs) = true) :
    (router.take input).delivered inputs = true := by
  set moment : Moment := ⟨router, input⟩
  simp only [delivered, armedDelivered, Bool.and_eq_true] at h ⊢
  obtain ⟨hfirst, harmed, hrest⟩ := h
  refine ⟨?_, hrest⟩
  show moment.after.machine.request?.all _ = true
  rcases moment.change hsound with ⟨hmachine, -⟩ | hchange
  · rw [hmachine]
    cases hpending : router.machine.pending with
    | none => simp [moment, Machine.request?, hpending]
    | some timer =>
      rw [Machine.request?, hpending, Option.map_some, Option.all_some] at hfirst
      rcases TimerRequest.of_expiresIn_cons hfirst with ⟨world, heq⟩ | hlater
      · -- an input that delivers the outstanding timer does not leave the machine as it is
        cases heq
        have hchange := (Machine.process_outstanding hsound hpending world).1
        exact absurd hmachine (hchange.ne hsound hpending)
      · show (router.machine.pending.map _).all _ = true
        rw [hpending]
        exact hlater
  · rw [Moment.request?_of_change hchange]
    exact harmed

/-- **Once every timer has been delivered none is outstanding.** -/
theorem pending_of_delivered (hsound : router.machine.Sound)
    (h : router.delivered inputs = true) : (router.run inputs).machine.pending = none := by
  induction inputs generalizing router with
  | nil =>
    cases hpending : router.machine.pending with
    | none => exact hpending
    | some timer => simp [delivered, Machine.request?, hpending, TimerRequest.expiresIn] at h
  | cons input inputs ih =>
    exact ih (@Moment.sound_after ⟨router, input⟩ hsound) (delivered_tail hsound h)

/-- If no retry is allowed no timer is armed for one. -/
theorem kind_of_armed {timeouts : Timeouts} (hnone : timeouts.retries = 0)
    (inputs : List Input) :
    ∀ request ∈ (Router.new timeouts).armed inputs, request.kind = .confirmation := by
  induction inputs using List.reverseRecOn with
  | nil => intro request hmem; cases hmem
  | append_singleton inputs input ih =>
    rw [armed_concat]
    intro request hmem
    rcases List.mem_append.1 hmem with hold | hnew
    · exact ih request hold
    · set moment : Moment := ⟨(Router.new timeouts).run inputs, input⟩
      have harmed : moment.armed? = some request := Option.mem_toList.1 hnew
      rcases moment.change (accounted_run timeouts inputs).sound with ⟨-, htimer⟩ | hchange
      · rw [Moment.armed?_of_keep htimer] at harmed; cases harmed
      · rw [← Moment.request?_of_change hchange] at harmed
        obtain ⟨timer, hpending, rfl⟩ := Option.map_eq_some_iff.1 harmed
        have hbudgeted := budgeted_run timeouts (inputs ++ [input])
        rw [run_append] at hbudgeted
        obtain ⟨hle, hretry⟩ := hbudgeted timer hpending
        show timer.kind = .confirmation
        cases hkind : timer.kind with
        | confirmation => rfl
        | retry => have := hretry hkind; omega

/-- **Retries are bounded, and expiries alone come to an end.**  The outstanding timer counts no
    more retries than are allowed, and at least one if it is for a retry.  From every router that
    can be reached, whatever the stack answers: any number of expiries leads to no more attempts
    than retries are allowed, all on the device of the timer that was outstanding at first, and
    at most twice as many expiries and one more have an effect.  Once every timer that was
    outstanding or armed has been delivered none is outstanding, no device is connecting, and no
    further expiry has an effect. -/
theorem bounded_retries (timeouts : Timeouts) (inputs : List Input) :
    let start := Router.new timeouts
    let router := start.run inputs
    let retries := timeouts.retries
    (∀ confirmation backoff asked, (Timeouts.of confirmation backoff asked).retries ≤ 1) ∧
    (∀ timer, router.machine.pending = some timer →
      match timer.kind with
      | .confirmation => timer.attempt ≤ retries
      | .retry => 1 ≤ timer.attempt ∧ timer.attempt ≤ retries) ∧
    (∀ expiries, (∀ input ∈ expiries, input.isExpiry = true) →
      let settled := router.run expiries
      (router.commands expiries).length ≤ retries ∧
      (∀ command ∈ router.commands expiries, ∃ timer,
        router.machine.pending = some timer ∧ command = .connectAudio timer.device) ∧
      (router.moments expiries).countP (·.hasEffect) ≤ 2 * retries + 1 ∧
      (router.delivered expiries = true →
        settled.machine.pending = none ∧
        (∀ device, settled.route ≠ .connecting device) ∧
        ∀ more, (∀ input ∈ more, input.isExpiry = true) →
          ∀ moment ∈ settled.moments more, moment.hasEffect = false)) ∧
    (retries = 0 → ∀ request ∈ start.armed inputs, request.kind = .confirmation) := by
  intro start router retries
  have haccounted := accounted_run timeouts inputs
  have hsound : router.machine.Sound := haccounted.sound
  have hretries : router.machine.timeouts.retries = retries :=
    congrArg Timeouts.retries haccounted.timeouts_eq
  have hbudgeted : Budgeted retries router.machine.pending := budgeted_run timeouts inputs
  refine ⟨fun confirmation backoff asked => Nat.min_le_right _ _, fun timer hpending => ?_,
    fun expiries hexpiries => ?_, fun hnone => ?_⟩
  · obtain ⟨hle, hretry⟩ := hbudgeted timer hpending
    cases hkind : timer.kind with
    | confirmation => exact hle
    | retry => exact ⟨hretry hkind, hle⟩
  · intro settled
    have hspends := spends_run hsound hexpiries
    have hahead := Machine.ahead_le (hretries.symm ▸ hbudgeted)
    rw [hretries] at hahead
    refine ⟨(Nat.le_of_add_right_le hspends.attempts).trans hahead.1, hspends.addressed,
      (Nat.le_of_add_right_le hspends.expiries).trans hahead.2, fun hdelivered => ?_⟩
    have hpending : settled.machine.pending = none := pending_of_delivered hsound hdelivered
    have hsettled : settled.machine.Sound := by
      have happend := (accounted_run timeouts (inputs ++ expiries)).sound
      rwa [run_append] at happend
    exact ⟨hpending, fun device hroute => hsettled.awaited hroute hpending,
      fun more hmore => rest_run hpending hmore⟩
  · exact kind_of_armed hnone inputs

/-- A device that does not confirm, is tried once more, refused and given up. -/
theorem bounded_retries_refused :
    let world := (Stack.ofDevices [⟨"A"⟩]).surroundings
    let refusing := ((Stack.ofDevices [⟨"A"⟩]).setAccepts false).surroundings
    let router := (Router.new (.of (.ofMillis 5000) (.ofMillis 500) 3)).run
      [.event world (.connect none)]
    let expiries := [.event world (.expired .confirmation 1), .event world (.expired .retry 7),
      .event refusing (.expired .retry 2), .event world (.expired .confirmation 1)]
    (∀ input ∈ expiries, Input.isExpiry input = true) ∧
      router.delivered expiries = true ∧
      router.commands expiries = [.connectAudio ⟨"A"⟩] ∧
      (router.moments expiries).countP (·.hasEffect) = 2 ∧
      (router.run expiries).machine.pending = none := by
  intro world refusing router expiries
  have hexpiries : ∀ input ∈ expiries, Input.isExpiry input = true := by
    simp [expiries, Input.isExpiry, Event.isTimer]
  have hdelivered : router.delivered expiries = true := by decide
  obtain ⟨-, -, hsettled, -⟩ := bounded_retries (.of (.ofMillis 5000) (.ofMillis 500) 3)
    [.event world (.connect none)]
  obtain ⟨-, -, -, hrest⟩ := hsettled expiries hexpiries
  exact ⟨hexpiries, hdelivered, by decide, by decide, (hrest hdelivered).1⟩

end Router

end CallAudio
