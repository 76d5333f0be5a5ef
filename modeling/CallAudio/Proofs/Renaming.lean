/-
  Addresses are opaque.

  Nothing depends on what an address looks like, only on which addresses are equal.  So if every
  address is replaced by another one, different ones by different ones, everything goes as
  before, with the addresses replaced.

  * `rename`, for each type that holds addresses: replaces every one of them;
  * `Surroundings.Alike`: a stack answers about the new addresses what another one answers about
    the old ones;
  * `Machine.process_rename`: on such stacks an event leads to the same with the new addresses;
  * `Host.serve_rename`: and so does whatever is done with a host;
  * `Host.opaque_addresses`: so it is with whole runs.
-/
import CallAudio.Host
import CallAudio.Proofs.Outcome
import Mathlib.Data.List.Basic
import Mathlib.Logic.Equiv.Basic

namespace CallAudio

/-! ## Renaming -/

section
variable (f : String → String)

/-- The device at the new address. -/
def Device.rename (device : Device) : Device := ⟨f device.address⟩

def Route.rename : Route → Route
  | off => off
  | connecting device => connecting (device.rename f)
  | connected device => connected (device.rename f)

def Event.rename : Event → Event
  | connect requested => connect (requested.map (·.rename f))
  | disconnect => disconnect
  | deviceAdded device => deviceAdded (device.rename f)
  | deviceLost device => deviceLost (device.rename f)
  | audioOn device => audioOn (device.rename f)
  | audioLost device => audioLost (device.rename f)
  | expired kind generation => expired kind generation

def Fault.rename : Fault → Fault
  | commandRejected device => commandRejected (device.rename f)
  | confirmationTimeout device => confirmationTimeout (device.rename f)
  | inconsistentReport device => inconsistentReport (device.rename f)
  | unknownDevice device => unknownDevice (device.rename f)

def Command.rename : Command → Command
  | connectAudio device => connectAudio (device.rename f)
  | disconnectAudio => disconnectAudio

/-- Kind of event, notices and timer hold no address. -/
def Transition.rename (transition : Transition) : Transition :=
  { transition with
    source := transition.source.rename f
    target := transition.target.rename f
    command := transition.command.map (·.rename f)
    fault := transition.fault.map (·.rename f) }

/-- The number, the kind and the attempt stay. -/
def PendingTimer.rename (timer : PendingTimer) : PendingTimer :=
  { timer with device := timer.device.rename f }

def Machine.rename (machine : Machine) : Machine :=
  { machine with
    route := machine.route.rename f
    pending := machine.pending.map (·.rename f) }

def Turn.rename (turn : Turn) : Turn where
  machine := turn.machine.rename f
  transition := turn.transition.rename f
  issued := turn.issued.map (·.rename f)

def Router.rename (router : Router) : Router :=
  { router with machine := router.machine.rename f }

def Recency.rename (recency : Recency) : Recency := ⟨recency.devices.map (·.rename f)⟩

def Stack.rename (stack : Stack) : Stack where
  recency := stack.recency.rename f
  accepts := stack.accepts
  active := stack.active.map (·.rename f)
  commands := stack.commands.map (·.rename f)

namespace Host

def rename (host : Host) : Host where
  router := host.router.rename f
  stack := host.stack.rename f

def Request.rename : Request → Request
  | connect device => connect (device.rename f)
  | disconnect device => disconnect (device.rename f)
  | replace devices => replace (devices.map (·.rename f))
  | setActive devices => setActive (devices.map (·.rename f))
  | connectAudio device => connectAudio (device.rename f)
  | contains device => contains (device.rename f)
  | mostRecent excluded => mostRecent (excluded.map (·.rename f))
  | isActive device => isActive (device.rename f)
  | force route => force (route.rename f)
  | process event => process (event.rename f)
  | other => other

def Answer.rename : Answer → Answer
  | device found => device (found.map (·.rename f))
  | devices found => devices (found.map (·.rename f))
  | commands recorded => commands (recorded.map (·.rename f))
  | refused fault => refused (fault.rename f)
  | processed transition => processed (transition.rename f)
  | other => other

end Host

end

variable {f : String → String}

@[simp] theorem Route.device?_rename (route : Route) :
    (route.rename f).device? = route.device?.map (·.rename f) := by
  cases route <;> rfl

@[simp] theorem Route.isOff_rename (route : Route) : (route.rename f).isOff = route.isOff := by
  cases route <;> rfl

@[simp] theorem Event.kind_rename (event : Event) : (event.rename f).kind = event.kind := by
  cases event <;> rfl

section
variable (hf : Function.Injective f)
include hf

theorem Device.rename_inj {device other : Device} :
    device.rename f = other.rename f ↔ device = other := by
  constructor
  · intro h
    have haddress : f device.address = f other.address := congrArg Device.address h
    cases device; cases other
    exact congrArg Device.mk (hf haddress)
  · rintro rfl; rfl

theorem Device.rename_injective : Function.Injective (Device.rename f) :=
  fun _ _ => (Device.rename_inj hf).1

theorem Route.rename_inj (route other : Route) :
    route.rename f = other.rename f ↔ route = other := by
  cases route <;> cases other <;> simp [Route.rename, Device.rename_inj hf]

theorem Route.isRoutedTo_rename (route : Route) (device : Device) :
    (route.rename f).isRoutedTo (device.rename f) = route.isRoutedTo device := by
  cases route <;> simp [isRoutedTo, Device.rename_inj hf, beq_eq_decide]

end

/-! ## Stacks that answer alike -/

/-- `other` answers about renamed devices what `world` answers about the devices. -/
structure Surroundings.Alike (f : String → String) (world other : Surroundings) : Prop where
  count : other.directory.count = world.directory.count
  contains : ∀ device,
    other.directory.contains (device.rename f) = world.directory.contains device
  mostRecent : ∀ excluded,
    other.directory.mostRecent (excluded.map (·.rename f)) =
      (world.directory.mostRecent excluded).map (·.rename f)
  accepts : ∀ device, other.headset.accepts (device.rename f) = world.headset.accepts device
  devices : other.headset.devices = world.headset.devices.map (·.rename f)
  isActive : ∀ device,
    other.headset.isActive (device.rename f) = world.headset.isActive device

namespace Surroundings.Alike

variable {world other : Surroundings} (h : world.Alike f other)
include h

theorem active? :
    other.headset.active? = world.headset.active?.map (·.rename f) := by
  rw [Headset.active?, h.devices, List.find?_map, Headset.active?]
  congr 2
  funext device
  exact h.isActive device

theorem fallback? (hf : Function.Injective f) (vacated : Device) :
    other.directory.fallback? (vacated.rename f) =
      (world.directory.fallback? vacated).map (·.rename f) := by
  have hrecent := h.mostRecent (some vacated)
  rw [Option.map_some] at hrecent
  rw [Directory.fallback?, Directory.fallback?, hrecent]
  cases world.directory.mostRecent (some vacated) with
  | none => rfl
  | some candidate =>
    have hne : (candidate.rename f != vacated.rename f) = (candidate != vacated) := by
      simp [bne, beq_eq_decide, Device.rename_inj hf]
    simp only [Option.map_some, Option.filter, hne, h.contains]
    split <;> rfl

theorem selectTarget (requested : Option Device) :
    other.directory.selectTarget (requested.map (·.rename f)) =
      match world.directory.selectTarget requested with
      | .ok target => .ok (target.map (·.rename f))
      | .error fault => .error (fault.rename f) := by
  cases requested with
  | some device =>
    simp only [Option.map_some, Directory.selectTarget, h.contains]
    split <;> rfl
  | none =>
    have hrecent := h.mostRecent none
    rw [Option.map_none] at hrecent
    simp only [Option.map_none, Directory.selectTarget, hrecent]
    cases world.directory.mostRecent none with
    | none => rfl
    | some candidate =>
      simp only [Option.map_some, Option.filter, h.contains]
      split <;> rfl

end Surroundings.Alike

/-! ## Effects -/

namespace Turn

section
variable (turn : Turn)

@[simp] theorem rename_notify (notice : Notice) :
    (turn.notify notice).rename f = (turn.rename f).notify notice := rfl

@[simp] theorem rename_blame (fault : Fault) :
    (turn.blame fault).rename f = (turn.rename f).blame (fault.rename f) := by
  cases h : turn.transition.fault <;> simp [rename, blame, Transition.blame, Transition.rename, h]

@[simp] theorem rename_moveTo (route : Route) :
    (turn.moveTo route).rename f = (turn.rename f).moveTo (route.rename f) := rfl

@[simp] theorem rename_consumeTimer :
    turn.consumeTimer.rename f = (turn.rename f).consumeTimer := rfl

@[simp] theorem rename_cancelTimer :
    turn.cancelTimer.rename f = (turn.rename f).cancelTimer := by
  cases h : turn.machine.pending <;> simp [cancelTimer, rename, Machine.rename, h]
  rfl

@[simp] theorem rename_arm (kind : TimerKind) (device : Device) (attempt : Nat) :
    (turn.arm kind device attempt).rename f =
      (turn.rename f).arm kind (device.rename f) attempt := rfl

@[simp] theorem rename_issue (command : Command) :
    (turn.issue command).rename f = (turn.rename f).issue (command.rename f) := by
  simp [rename, issue, Transition.rename]

@[simp] theorem rename_finish : turn.finish.rename f = (turn.rename f).finish := rfl

@[simp] theorem rename_start (machine : Machine) (event : EventKind) :
    (start machine event).rename f = start (machine.rename f) event := rfl

end

/-! ## Handlers -/

section
variable (hf : Function.Injective f) {world other : Surroundings} (h : world.Alike f other)
include h

theorem rename_settleFailure (device : Device) (attempt : Nat) (turn : Turn) :
    (turn.settleFailure world device attempt).rename f =
      (turn.rename f).settleFailure other (device.rename f) attempt := by
  unfold settleFailure
  rw [h.active?]
  cases world.headset.active? with
  | some active => rfl
  | none =>
    simp only [Option.map_none, h.contains]
    -- the condition is the same: the number of retries holds no address
    exact apply_ite (Turn.rename f) _ _ _

theorem rename_beginConnect (device : Device) (attempt : Nat) (turn : Turn) :
    (turn.beginConnect world device attempt).rename f =
      (turn.rename f).beginConnect other (device.rename f) attempt := by
  simp only [beginConnect, h.accepts]
  split
  · simp [Command.rename, Route.rename]
  · simp [rename_settleFailure h, Command.rename, Fault.rename]

theorem rename_checkReport (device : Device) (turn : Turn) :
    (turn.checkReport world device).rename f =
      (turn.rename f).checkReport other (device.rename f) := by
  simp only [checkReport, h.contains]
  split
  · rfl
  · simp [Fault.rename]

theorem rename_onDeviceAdded (turn : Turn) :
    (turn.onDeviceAdded world).rename f = (turn.rename f).onDeviceAdded other := by
  simp only [onDeviceAdded, h.count]
  split <;> simp

theorem rename_reportLoss (turn : Turn) :
    (turn.reportLoss world).rename f = (turn.rename f).reportLoss other := by
  simp only [reportLoss, h.count]
  split <;> simp

theorem rename_connectFromOff (requested : Option Device) (turn : Turn) :
    (turn.connectFromOff world requested).rename f =
      (turn.rename f).connectFromOff other (requested.map (·.rename f)) := by
  simp only [connectFromOff, h.selectTarget]
  cases world.directory.selectTarget requested with
  | error fault => simp
  | ok target => cases target <;> simp [rename_beginConnect h]

theorem rename_switchTo (device : Device) (turn : Turn) :
    (turn.switchTo world device).rename f =
      (turn.rename f).switchTo other (device.rename f) := by
  have htarget := h.selectTarget (some device)
  rw [Option.map_some] at htarget
  simp only [switchTo, htarget]
  cases world.directory.selectTarget (some device) with
  | error fault => simp
  | ok target => cases target <;> simp [rename_beginConnect h]

theorem rename_onConfirmationTimeout (timer : PendingTimer) (turn : Turn) :
    (turn.onConfirmationTimeout world timer).rename f =
      (turn.rename f).onConfirmationTimeout other (timer.rename f) := by
  simp [onConfirmationTimeout, rename_settleFailure h, PendingTimer.rename, Fault.rename]

theorem rename_onRetry (timer : PendingTimer) (turn : Turn) :
    (turn.onRetry world timer).rename f = (turn.rename f).onRetry other (timer.rename f) := by
  simp only [onRetry, PendingTimer.rename, h.contains]
  split
  · simp [rename_beginConnect h]
  · rfl

omit h in
theorem rename_onDisconnect (turn : Turn) :
    turn.onDisconnect.rename f = (turn.rename f).onDisconnect := by
  have hoff : (turn.rename f).cancelTimer.machine.route.isOff =
      turn.cancelTimer.machine.route.isOff := by simp [rename, Machine.rename]
  simp only [onDisconnect, hoff]
  split <;> simp [Command.rename, Route.rename]

include hf

theorem rename_fallBack (vacated : Device) (turn : Turn) :
    (turn.fallBack world vacated).rename f =
      (turn.rename f).fallBack other (vacated.rename f) := by
  simp only [fallBack, h.fallback? hf]
  cases world.directory.fallback? vacated with
  | none => simp [Route.rename]
  | some candidate => simp [rename_beginConnect h]

theorem rename_onConnect (requested : Option Device) (turn : Turn) :
    (turn.onConnect world requested).rename f =
      (turn.rename f).onConnect other (requested.map (·.rename f)) := by
  have hroute : (turn.rename f).machine.route.device? =
      turn.machine.route.device?.map (·.rename f) := Route.device?_rename _
  simp only [onConnect, hroute]
  cases turn.machine.route.device? with
  | none => exact rename_connectFromOff h requested turn
  | some current =>
    cases requested with
    | none => rfl
    | some device =>
      simp only [Option.map_some, Device.rename_inj hf]
      split
      · rfl
      · exact rename_switchTo h device turn

theorem rename_leaveLost (device : Device) (turn : Turn) :
    (turn.leaveLost world device).rename f =
      (turn.rename f).leaveLost other (device.rename f) := by
  have hrouted : (turn.rename f).machine.route.isRoutedTo (device.rename f) =
      turn.machine.route.isRoutedTo device := Route.isRoutedTo_rename hf _ _
  have hpending : (turn.rename f).machine.pending.any (·.device = device.rename f) =
      turn.machine.pending.any (·.device = device) := by
    show (turn.machine.pending.map (·.rename f)).any _ = _
    cases turn.machine.pending with
    | none => rfl
    | some timer => simp [PendingTimer.rename, Device.rename_inj hf]
  simp only [leaveLost, hrouted, hpending]
  split
  · exact rename_fallBack hf h device turn
  · split <;> simp

theorem rename_onAudioOn (device : Device) (turn : Turn) :
    (turn.onAudioOn world device).rename f =
      (turn.rename f).onAudioOn other (device.rename f) := by
  have hroute : ((turn.rename f).checkReport other (device.rename f)).machine.route =
        .connected (device.rename f) ↔
      (turn.checkReport world device).machine.route = .connected device := by
    rw [← rename_checkReport h]
    exact Route.rename_inj hf _ (.connected device)
  simp only [onAudioOn, hroute]
  split
  · exact rename_checkReport h device turn
  · simp [rename_checkReport h, Route.rename]

theorem rename_onAudioLost (device : Device) (turn : Turn) :
    (turn.onAudioLost world device).rename f =
      (turn.rename f).onAudioLost other (device.rename f) := by
  have hrouted : ((turn.rename f).checkReport other (device.rename f)).machine.route.isRoutedTo
        (device.rename f) =
      (turn.checkReport world device).machine.route.isRoutedTo device := by
    rw [← rename_checkReport h]
    exact Route.isRoutedTo_rename hf _ _
  simp only [onAudioLost, hrouted]
  split
  · rw [rename_fallBack hf h, rename_checkReport h]
  · exact rename_checkReport h device turn

omit h in
theorem rename_matching? (kind : TimerKind) (generation : UInt64) (turn : Turn) :
    (turn.rename f).matching? kind generation =
      (turn.matching? kind generation).map (·.rename f) := by
  show (turn.machine.pending.map (·.rename f)).filter _ = _
  rw [matching?]
  cases turn.machine.pending with
  | none => rfl
  | some timer =>
    have hroute : ((turn.rename f).machine.route == .connecting (timer.device.rename f)) =
        (turn.machine.route == .connecting timer.device) := by
      rw [beq_eq_decide, beq_eq_decide]
      exact decide_eq_decide.2 (Route.rename_inj hf _ (.connecting timer.device))
    have hoff : (turn.rename f).machine.route.isOff = turn.machine.route.isOff :=
      Route.isOff_rename _
    simp only [Option.map_some, Option.filter, PendingTimer.rename, hroute, hoff]
    symm
    cases kind <;> exact apply_ite (Option.map (PendingTimer.rename f)) _ _ _

theorem rename_onExpired (kind : TimerKind) (generation : UInt64) (turn : Turn) :
    (turn.onExpired world kind generation).rename f =
      (turn.rename f).onExpired other kind generation := by
  simp only [onExpired, rename_matching? hf]
  cases turn.matching? kind generation with
  | none => rfl
  | some timer =>
    cases kind with
    | confirmation => exact rename_onConfirmationTimeout h timer turn
    | retry => exact rename_onRetry h timer turn

/-- **Every handler does with the new addresses what it does with the old ones.** -/
theorem rename_handle (turn : Turn) (event : Event) :
    (turn.handle world event).rename f = (turn.rename f).handle other (event.rename f) := by
  cases event with
  | connect requested => exact rename_onConnect hf h requested turn
  | disconnect => exact rename_onDisconnect turn
  | deviceAdded device => exact rename_onDeviceAdded h turn
  | deviceLost device =>
    simp only [handle, Event.rename, onDeviceLost, rename_reportLoss h, rename_leaveLost hf h]
  | audioOn device => exact rename_onAudioOn hf h device turn
  | audioLost device => exact rename_onAudioLost hf h device turn
  | expired kind generation => exact rename_onExpired hf h kind generation turn

end

end Turn

/-- **An event leads to the same with the new addresses.** -/
theorem Machine.process_rename (hf : Function.Injective f) {world other : Surroundings}
    (h : world.Alike f other) (machine : Machine) (event : Event) :
    (machine.rename f).process other (event.rename f) =
      (machine.process world event).rename f := by
  rw [process, process, Turn.rename_finish, Turn.rename_handle hf h, Turn.rename_start,
    Event.kind_rename]

/-- A route that is entered from outside arms a timer that holds no address. -/
theorem Machine.enter_rename (machine : Machine) (route : Route) :
    (machine.rename f).enter (route.rename f) =
      ((machine.enter route).1.rename f, (machine.enter route).2) := by
  cases route <;> rfl

namespace Router

variable {world other : Surroundings} (h : world.Alike f other)
include h

theorem process_rename (hf : Function.Injective f) (router : Router) (event : Event) :
    (router.rename f).process other (event.rename f) =
      ((router.process world event).1.rename f, (router.process world event).2.rename f) := by
  have hturn := Machine.process_rename hf h router.machine event
  have hnotices : ((router.machine.process world event).rename f).transition.notices =
      (router.machine.process world event).transition.notices := rfl
  simp only [process, rename, hturn, hnotices]
  rfl

theorem force_rename (router : Router) (route : Route) :
    (router.rename f).force other.directory (route.rename f) =
      match router.force world.directory route with
      | .ok (router, timer) => .ok (router.rename f, timer)
      | .error fault => .error (fault.rename f) := by
  simp only [force, Machine.force, Route.device?_rename]
  cases route.device? with
  | none => simp [Except.map, rename, Machine.enter_rename]
  | some device =>
    simp only [Option.map_some, h.contains]
    split
    · simp [Except.map, rename, Machine.enter_rename]
    · rfl

end Router

/-! ## Stacks in memory -/

theorem Recency.contains_rename (hf : Function.Injective f) (devices : List Device)
    (device : Device) :
    (devices.map (·.rename f)).contains (device.rename f) = devices.contains device := by
  rw [Bool.eq_iff_iff, List.contains_iff_mem, List.contains_iff_mem]
  exact List.mem_map_of_injective (Device.rename_injective hf)

theorem Recency.mostRecent_rename (hf : Function.Injective f) (recency : Recency)
    (excluded : Option Device) :
    (recency.rename f).mostRecent (excluded.map (·.rename f)) =
      (recency.mostRecent excluded).map (·.rename f) := by
  rw [mostRecent, mostRecent, rename, List.find?_map]
  congr 2
  funext device
  cases excluded with
  | none => rfl
  | some other => simp [bne, beq_eq_decide, Device.rename_inj hf]

theorem Recency.disconnect_rename (hf : Function.Injective f) (recency : Recency)
    (device : Device) :
    (recency.rename f).disconnect (device.rename f) = (recency.disconnect device).rename f := by
  rw [disconnect, disconnect, rename, rename, List.filter_map]
  congr 3
  funext other
  simp [bne, beq_eq_decide, Device.rename_inj hf]

theorem Recency.connect_rename (hf : Function.Injective f) (recency : Recency)
    (device : Device) :
    (recency.rename f).connect (device.rename f) = (recency.connect device).rename f := by
  rw [connect, disconnect_rename hf]
  rfl

/-- A stack with the new addresses answers alike. -/
theorem Stack.alike_rename (hf : Function.Injective f) (stack : Stack) :
    stack.surroundings.Alike f (stack.rename f).surroundings where
  count := List.length_map _
  contains := Recency.contains_rename hf stack.recency.devices
  mostRecent := stack.recency.mostRecent_rename hf
  accepts _ := rfl
  devices := rfl
  isActive := Recency.contains_rename hf stack.active

theorem Stack.connect_rename (hf : Function.Injective f) (stack : Stack) (device : Device) :
    (stack.rename f).connect (device.rename f) = (stack.connect device).rename f := by
  simp only [connect, rename, Recency.connect_rename hf]

theorem Stack.disconnect_rename (hf : Function.Injective f) (stack : Stack) (device : Device) :
    (stack.rename f).disconnect (device.rename f) = (stack.disconnect device).rename f := by
  simp only [disconnect, rename, Recency.disconnect_rename hf]

theorem Stack.record_rename (stack : Stack) (commands : List Command) :
    (stack.rename f).record (commands.map (·.rename f)) = (stack.record commands).rename f := by
  simp [record, rename]

/-! ## Hosts -/

namespace Host

variable (hf : Function.Injective f)
include hf

omit hf in
theorem onStack_rename (host : Host) (change other : Stack → Stack)
    (h : other (host.stack.rename f) = (change host.stack).rename f) :
    (host.rename f).onStack other =
      ((host.onStack change).1.rename f, (host.onStack change).2.rename f) := by
  have hstack : other (host.rename f).stack = (change host.stack).rename f := h
  simp only [onStack, hstack]
  rfl

theorem enter_rename (host : Host) (route : Route) :
    (host.rename f).enter (route.rename f) =
      ((host.enter route).1.rename f, (host.enter route).2.rename f) := by
  have hforce := Router.force_rename (host.stack.alike_rename hf) host.router route
  simp only [enter, rename, hforce]
  cases host.router.force host.stack.surroundings.directory route with
  | ok result => rfl
  | error fault => rfl

theorem handle_rename (host : Host) (event : Event) :
    (host.rename f).handle (event.rename f) =
      ((host.handle event).1.rename f, (host.handle event).2.rename f) := by
  have hprocess := Router.process_rename (host.stack.alike_rename hf) hf host.router event
  simp only [handle, rename, hprocess, ← Stack.record_rename]
  rfl

/-- **Whatever is done with a host, with the new addresses it leads to the same.** -/
theorem serve_rename (host : Host) (request : Request) :
    (host.rename f).serve (request.rename f) =
      ((host.serve request).1.rename f, (host.serve request).2.rename f) := by
  have hlike := host.stack.alike_rename hf
  cases request with
  | connect device =>
    exact onStack_rename host (·.connect device) (·.connect (device.rename f))
      (host.stack.connect_rename hf device)
  | disconnect device =>
    exact onStack_rename host (·.disconnect device) (·.disconnect (device.rename f))
      (host.stack.disconnect_rename hf device)
  | replace devices =>
    exact onStack_rename host (·.replace devices) (·.replace (devices.map (·.rename f))) rfl
  | setActive devices =>
    exact onStack_rename host (·.setActive devices) (·.setActive (devices.map (·.rename f))) rfl
  | setAccepts accepts =>
    exact onStack_rename host (·.setAccepts accepts) (·.setAccepts accepts) rfl
  | connectAudio device =>
    exact congrArg (fun stack => (Host.mk (host.router.rename f) stack,
      Answer.truth host.stack.accepts)) (host.stack.record_rename [.connectAudio device])
  | disconnectAudio =>
    exact onStack_rename host (·.disconnectAudio) (·.disconnectAudio)
      (host.stack.record_rename [.disconnectAudio])
  | takeCommands => rfl
  | count => exact congrArg (fun count => (host.rename f, Answer.number count)) hlike.count
  | contains device =>
    exact congrArg (fun value => (host.rename f, Answer.truth value)) (hlike.contains device)
  | mostRecent excluded =>
    exact congrArg (fun found => (host.rename f, Answer.device found)) (hlike.mostRecent excluded)
  | isActive device =>
    exact congrArg (fun value => (host.rename f, Answer.truth value)) (hlike.isActive device)
  | active => exact congrArg (fun found => (host.rename f, Answer.device found)) hlike.active?
  | listen listener => rfl
  | force route => exact enter_rename hf host route
  | process event => exact handle_rename hf host event

/-! ## Runs -/

theorem run_rename (host : Host) (requests : List Request) :
    (host.rename f).run (requests.map (·.rename f)) = (host.run requests).rename f := by
  induction requests generalizing host with
  | nil => rfl
  | cons request requests ih =>
    have hserve := congrArg Prod.fst (serve_rename hf host request)
    rw [List.map_cons, run, List.foldl_cons, hserve]
    exact ih _

theorem answers_rename (host : Host) (requests : List Request) :
    (host.rename f).answers (requests.map (·.rename f)) =
      (host.answers requests).map (·.rename f) := by
  induction requests generalizing host with
  | nil => rfl
  | cons request requests ih =>
    have hserve := serve_rename hf host request
    rw [List.map_cons, answers, answers, List.map_cons, hserve]
    exact congrArg _ (ih _)

/-- The records of the events that were processed. -/
def transitions (host : Host) (requests : List Request) : List Transition :=
  (host.answers requests).filterMap fun
    | .processed transition => some transition
    | _ => none

theorem transitions_rename (host : Host) (requests : List Request) :
    (host.rename f).transitions (requests.map (·.rename f)) =
      (host.transitions requests).map (·.rename f) := by
  rw [transitions, answers_rename hf, transitions, List.filterMap_map, List.map_filterMap]
  congr 1
  funext answer
  cases answer <;> rfl

/-- **Addresses are opaque.**  Let every address be replaced by another one, different ones by
    different ones, in all that is done with a host, from its first devices on.  Then the host
    and all its answers are those of before with the addresses replaced.  That is to say: so it
    is with the route, the device of the outstanding timer, the devices connected and active and
    the commands recorded, and with routes, command and fault of every transition, while the
    rest stays: the kind, number and attempt of the timer, the generation counter, what the
    listener was told, and kind, notices and timer of every transition. -/
theorem opaque_addresses (timeouts : Timeouts) (devices : List Device)
    (requests : List Request) :
    let start := Host.start timeouts devices
    let host := start.run requests
    let renamed := Host.start timeouts (devices.map (·.rename f))
    let other := renamed.run (requests.map (·.rename f))
    renamed.answers (requests.map (·.rename f)) = (start.answers requests).map (·.rename f) ∧
    other = host.rename f ∧
    other.router.route = host.router.route.rename f ∧
    other.router.machine.pending = (host.router.machine.pending.map fun timer =>
      ⟨timer.generation, timer.kind, ⟨f timer.device.address⟩, timer.attempt⟩) ∧
    other.router.machine.generation = host.router.machine.generation ∧
    other.router.notifier = host.router.notifier ∧
    other.stack.recency.devices =
      (host.stack.recency.devices.map fun device => ⟨f device.address⟩) ∧
    other.stack.active = (host.stack.active.map fun device => ⟨f device.address⟩) ∧
    other.stack.commands = host.stack.commands.map (·.rename f) ∧
    renamed.transitions (requests.map (·.rename f)) =
      (start.transitions requests).map fun transition =>
        { event := transition.event
          source := transition.source.rename f
          target := transition.target.rename f
          command := transition.command.map (·.rename f)
          notices := transition.notices
          timer := transition.timer
          fault := transition.fault.map (·.rename f) } := by
  intro start host renamed other
  have hhost : other = host.rename f := run_rename hf start requests
  refine ⟨answers_rename hf start requests, hhost, ?_, ?_, ?_, ?_, ?_, ?_, ?_,
    transitions_rename hf start requests⟩ <;> rw [hhost] <;> rfl

omit hf in
/-- An empty address and one with a colon change places, and the device that is asked for is
    refused. -/
theorem opaque_addresses_swapped :
    let f : String → String := Equiv.swap "" "A:b"
    let timeouts : Timeouts := .of (.ofMillis 5000) (.ofMillis 500) 1
    let requests : List Request :=
      [.listen 7, .setAccepts false, .process (.connect (some ⟨""⟩)), .disconnect ⟨"A:b"⟩]
    let start := Host.start timeouts [⟨"A:b"⟩, ⟨""⟩, ⟨"a:B"⟩]
    let renamed := Host.start timeouts [⟨""⟩, ⟨"A:b"⟩, ⟨"a:B"⟩]
    let other := renamed.run
      [.listen 7, .setAccepts false, .process (.connect (some ⟨"A:b"⟩)), .disconnect ⟨""⟩]
    Function.Injective f ∧
      (start.run requests).router.machine.pending = some ⟨1, .retry, ⟨""⟩, 1⟩ ∧
      other.router.machine.pending = some ⟨1, .retry, ⟨"A:b"⟩, 1⟩ ∧
      other.stack.recency.devices = [⟨"A:b"⟩, ⟨"a:B"⟩] ∧
      other.stack.commands = [.connectAudio ⟨"A:b"⟩] := by
  intro f timeouts requests start renamed other
  have hf : Function.Injective f := (Equiv.swap "" "A:b").injective
  have hpending :
      (start.run requests).router.machine.pending = some ⟨1, .retry, ⟨""⟩, 1⟩ := by decide
  obtain ⟨-, -, -, htimer, -, -, hdevices, -, hcommands, -⟩ :=
    opaque_addresses hf timeouts [⟨"A:b"⟩, ⟨""⟩, ⟨"a:B"⟩] requests
  rw [hpending] at htimer
  exact ⟨hf, hpending, htimer, hdevices, hcommands⟩

end Host

end CallAudio
