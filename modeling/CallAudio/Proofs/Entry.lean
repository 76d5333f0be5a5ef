/-
  Routes that are entered from outside.

  Whether a route is entered is decided before anything is written.

  * `Machine.enter_eq`: the machine on the new route, and the timer that comes with it;
  * `Router.force_of_covers`, `Router.force_of_unknown`: a route is entered, or refused, exactly
    if the directory lists its device, or does not;
  * `Moment.change_of_covers`: a route that is entered ends what was waited for before;
  * `Router.process_after_entry`: and for good.
-/
import CallAudio.Proofs.Listed
import CallAudio.Proofs.Stale

namespace CallAudio

theorem Directory.covers_or_unknown (directory : Directory) (route : Route) :
    directory.Covers route ∨
      ∃ device, route.device? = some device ∧ directory.contains device = false := by
  by_cases h : directory.Covers route
  · exact .inl h
  · simp only [Covers, not_forall, Bool.not_eq_true] at h
    obtain ⟨device, hdevice, hunknown⟩ := h
    exact .inr ⟨device, hdevice, hunknown⟩

/-- A route that awaits confirmation comes with a timer of a new generation, for the first
    attempt. -/
theorem Machine.enter_eq (machine : Machine) (route : Route) :
    machine.enter route =
      match route with
      | .connecting device =>
        ({ machine with
            route, pending := some ⟨machine.generation + 1, .confirmation, device, 0⟩
            generation := machine.generation + 1 },
          some ⟨.confirmation, machine.generation + 1, machine.timeouts.confirmation⟩)
      | .off | .connected _ => ({ machine with route, pending := none }, none) := by
  cases route <;> rfl

namespace Router

variable {router : Router} {directory : Directory} {route : Route} {device : Device}

theorem force_of_covers (h : directory.Covers route) :
    router.force directory route =
      .ok ({ router with machine := (router.machine.enter route).1 },
        (router.machine.enter route).2) := by
  have hforce : router.machine.force directory route = .ok (router.machine.enter route) := by
    unfold Machine.force
    split
    · next device hdevice => rw [if_pos (h device hdevice)]
    · rfl
  rw [force, hforce]
  rfl

theorem force_of_unknown (hdevice : route.device? = some device)
    (hunknown : directory.contains device = false) :
    router.force directory route = .error (.unknownDevice device) := by
  have hforce : router.machine.force directory route = .error (.unknownDevice device) := by
    simp [Machine.force, hdevice, hunknown]
  rw [force, hforce]
  rfl

theorem take_of_covers (h : directory.Covers route) :
    router.take (.force directory route) =
      { router with machine := (router.machine.enter route).1 } := by
  rw [take, force_of_covers h]

theorem route_take_of_covers (h : directory.Covers route) :
    (router.take (.force directory route)).route = route := by
  rw [take_of_covers h]
  cases route <;> rfl

end Router

namespace Moment

variable {router : Router} {directory : Directory} {route : Route} {device : Device}

/-- A route that is entered leaves nothing of what was waited for before. -/
theorem change_of_covers (h : directory.Covers route) :
    let moment : Moment := ⟨router, .force directory route⟩
    router.machine.Change moment.after.machine moment.armed? := by
  have hforce := @Router.force_of_covers router directory route h
  simp only [after, armed?, timer, Router.take_of_covers h, hforce]
  cases route with
  | off => exact .clear .off (by simp)
  | connecting device =>
    exact .arm ⟨router.machine.generation + 1, .confirmation, device, 0⟩ rfl
  | connected device => exact .clear (.connected device) (by simp)

/-- A route that is refused changes nothing. -/
theorem unchanged_of_unknown (hdevice : route.device? = some device)
    (hunknown : directory.contains device = false) :
    let moment : Moment := ⟨router, .force directory route⟩
    moment.after = router ∧ moment.timer = .keep := by
  have hforce := @Router.force_of_unknown router directory route device hdevice hunknown
  refine ⟨router.take_of_refused hforce, ?_⟩
  simp only [timer, hforce]

end Moment

/-- **After a route is entered, no timer of before is acted on any more.** -/
theorem Router.process_after_entry {timeouts : Timeouts} {before later : List Input}
    {directory : Directory} {route : Route} (h : directory.Covers route)
    (hroom : ((Router.new timeouts).armed (before ++ .force directory route :: later)).length <
      UInt64.size)
    {earlier : TimerRequest} (hearlier : earlier ∈ (Router.new timeouts).armed before)
    (world : Surroundings) (kind : TimerKind) :
    let last := (Router.new timeouts).run (before ++ .force directory route :: later)
    last.process world (.expired kind earlier.generation) =
      (last, { machine := last.machine, transition := .start (.expired kind) last.route }) :=
  process_stale (outstanding?_after_change hroom (Moment.change_of_covers h) hearlier kind) world

end CallAudio
