/-
  A headset stack in memory, for hosts that have none.

  Its directory is a recency list.  Its headset shares the list, accepts or refuses all
  requests alike, and records the commands it gets.
-/
import CallAudio.Stack.Recency
import CallAudio.Transition

namespace CallAudio

/-- A headset stack in memory. -/
structure Stack where
  /-- The connected devices. -/
  recency : Recency := {}
  /-- Whether requests to open audio are accepted. -/
  accepts : Bool := true
  /-- The devices on which the stack reports audio. -/
  active : List Device := []
  /-- The commands received, in order. -/
  commands : List Command := []
deriving DecidableEq, Inhabited

namespace Stack

/-- A stack with `devices` connected, the one connected last first. -/
def ofDevices (devices : List Device) : Stack := { recency := ⟨devices⟩ }

/-- The headset side of the stack. -/
def headset (stack : Stack) : Headset where
  accepts _ := stack.accepts
  devices := stack.recency.devices
  isActive := stack.active.contains

/-- What a machine on this stack sees. -/
def surroundings (stack : Stack) : Surroundings where
  directory := stack.recency.directory
  headset := stack.headset

/-- A device connects. -/
def connect (stack : Stack) (device : Device) : Stack :=
  { stack with recency := stack.recency.connect device }

/-- A device disconnects. -/
def disconnect (stack : Stack) (device : Device) : Stack :=
  { stack with recency := stack.recency.disconnect device }

/-- Replaces the connected devices. -/
def replace (stack : Stack) (devices : List Device) : Stack :=
  { stack with recency := ⟨devices⟩ }

/-- Replaces the devices on which the stack reports audio. -/
def setActive (stack : Stack) (devices : List Device) : Stack :=
  { stack with active := devices }

/-- Has requests to open audio accepted or refused from now on. -/
def setAccepts (stack : Stack) (accepts : Bool) : Stack :=
  { stack with accepts := accepts }

/-- Records commands. -/
def record (stack : Stack) (commands : List Command) : Stack :=
  { stack with commands := stack.commands ++ commands }

/-- Asks the headset to open audio, and says whether it accepts. -/
def connectAudio (stack : Stack) (device : Device) : Stack × Bool :=
  (stack.record [.connectAudio device], stack.accepts)

/-- Has the headset close audio. -/
def disconnectAudio (stack : Stack) : Stack := stack.record [.disconnectAudio]

/-- Hands out the record of commands and starts a new one. -/
def takeCommands (stack : Stack) : Stack × List Command :=
  ({ stack with commands := [] }, stack.commands)

end Stack

end CallAudio
