/-
  A router on a stack in memory, driven by hand.

  There is neither a queue nor a clock: the host changes the stack and asks it, has the machine
  process events, expiries of timers among them, and gets the answer of each call at once.

  * `Host.Request`, `Host.Answer`: what a host is asked, and what it answers;
  * `Host.serve`: one request;
  * `Host.run`, `Host.answers`: many of them.
-/
import CallAudio.Router
import CallAudio.Stack.Memory

namespace CallAudio

/-- A router and the stack that it runs on. -/
structure Host where
  router : Router
  stack : Stack := {}
deriving DecidableEq, Inhabited

namespace Host

/-- What a host is asked. -/
inductive Request where
  /-- A device connects. -/
  | connect (device : Device)
  /-- A device disconnects. -/
  | disconnect (device : Device)
  /-- These devices are connected from now on. -/
  | replace (devices : List Device)
  /-- Audio is active on these devices from now on. -/
  | setActive (devices : List Device)
  /-- Requests to open audio are accepted or refused from now on. -/
  | setAccepts (accepts : Bool)
  /-- To open audio, behind the machine's back. -/
  | connectAudio (device : Device)
  /-- To close audio, behind the machine's back. -/
  | disconnectAudio
  /-- To hand out the commands recorded, and to forget them. -/
  | takeCommands
  /-- How many devices are connected. -/
  | count
  /-- Whether a device is connected. -/
  | contains (device : Device)
  /-- Which device connected last, one possibly left out. -/
  | mostRecent (excluded : Option Device)
  /-- Whether audio is active on a device. -/
  | isActive (device : Device)
  /-- On which of the headset's devices audio is active. -/
  | active
  /-- To have a listener told of what happens from now on. -/
  | listen (listener : Nat)
  /-- To put the machine into a route. -/
  | force (route : Route)
  /-- To process an event. -/
  | process (event : Event)
deriving DecidableEq, Inhabited

/-- What a host answers. -/
inductive Answer where
  | done
  | truth (value : Bool)
  | number (value : Nat)
  | device (device : Option Device)
  | devices (devices : List Device)
  | commands (commands : List Command)
  /-- The machine is in the route, and this timer is to be armed. -/
  | forced (timer : Option TimerRequest)
  /-- The machine refused the route. -/
  | refused (fault : Fault)
  | processed (transition : Transition)
deriving DecidableEq, Inhabited

/-- A host with `devices` connected, the one connected last first. -/
def start (timeouts : Timeouts) (devices : List Device) : Host where
  router := .new timeouts
  stack := .ofDevices devices

/-- Changes the stack, and shows the devices that are connected then. -/
def onStack (host : Host) (change : Stack → Stack) : Host × Answer :=
  let stack := change host.stack
  ({ host with stack := stack }, .devices stack.recency.devices)

/-- Puts the machine into a route. -/
def enter (host : Host) (route : Route) : Host × Answer :=
  match host.router.force host.stack.surroundings.directory route with
  | .ok (router, timer) => ({ host with router := router }, .forced timer)
  | .error fault => (host, .refused fault)

/-- Has the machine process an event; the stack records the commands. -/
def handle (host : Host) (event : Event) : Host × Answer :=
  let (router, turn) := host.router.process host.stack.surroundings event
  ({ router := router, stack := host.stack.record turn.issued }, .processed turn.transition)

/-- Does what is asked. -/
def serve (host : Host) : Request → Host × Answer
  | .connect device => host.onStack (·.connect device)
  | .disconnect device => host.onStack (·.disconnect device)
  | .replace devices => host.onStack (·.replace devices)
  | .setActive devices => host.onStack (·.setActive devices)
  | .setAccepts accepts => host.onStack (·.setAccepts accepts)
  | .connectAudio device =>
    let (stack, accepted) := host.stack.connectAudio device
    ({ host with stack := stack }, .truth accepted)
  | .disconnectAudio => host.onStack (·.disconnectAudio)
  | .takeCommands =>
    let (stack, commands) := host.stack.takeCommands
    ({ host with stack := stack }, .commands commands)
  | .count => (host, .number host.stack.recency.count)
  | .contains device => (host, .truth (host.stack.recency.contains device))
  | .mostRecent excluded => (host, .device (host.stack.recency.mostRecent excluded))
  | .isActive device => (host, .truth (host.stack.headset.isActive device))
  | .active => (host, .device host.stack.headset.active?)
  | .listen listener => ({ host with router := host.router.register listener }, .done)
  | .force route => host.enter route
  | .process event => host.handle event

/-- The host after all of `requests`. -/
def run (host : Host) (requests : List Request) : Host :=
  requests.foldl (fun host request => (host.serve request).1) host

/-- The answers to `requests`, in order. -/
def answers (host : Host) : List Request → List Answer
  | [] => []
  | request :: requests =>
    let (after, answer) := host.serve request
    answer :: after.answers requests

end Host

end CallAudio
