/-
  The values of this library as structured data.

  Values that come in several shapes carry a tag: an event its `type`, a route its
  `state`, a command its `command`, a timer action its `action`.  A route without device
  has no `device` entry; a connect request without a name has an empty one.  Entries
  stand in the order in which reports show them.
-/
import CallAudio.Datum.Basic
import CallAudio.Transition

namespace CallAudio

/-- A device is written as its address. -/
def Device.encode (device : Device) : Datum := .text device.address

/-- An optional value is written as itself, or as nothing. -/
def encodeOption {α : Type} (encode : α → Datum) : Option α → Datum
  | none => .null
  | some value => encode value

/-- The entries that follow an event's tag. -/
def Event.fields : Event → List (String × Datum)
  | connect requested => [("device", encodeOption Device.encode requested)]
  | disconnect => []
  | deviceAdded device | deviceLost device | audioOn device | audioLost device =>
    [("address", device.encode)]
  | expired _ generation => [("generation", .integer generation.toNat)]

/-- An event as a table with its `type`. -/
def Event.encode (event : Event) : Datum :=
  .table (("type", .text event.name) :: event.fields)

/-- The tag of a route. -/
def Route.tag : Route → String
  | off => "audio_off"
  | connecting _ => "audio_connecting"
  | connected _ => "audio_connected"

/-- A route as a table with its `state`. -/
def Route.encode (route : Route) : Datum :=
  .table (("state", .text route.tag) ::
    route.device?.toList.map fun device => ("device", device.encode))

/-- A notice is written as its name. -/
def Notice.encode (notice : Notice) : Datum := .text notice.name

/-- A command as a table with its `command`. -/
def Command.encode : Command → Datum
  | connectAudio device => .table [("command", .text "connect_audio"), ("address", device.encode)]
  | disconnectAudio => .table [("command", .text "disconnect_audio")]

/-- The entries of a timer request.  The delay is written in whole milliseconds. -/
def TimerRequest.fields (request : TimerRequest) : List (String × Datum) :=
  [("kind", .text request.kind.name), ("generation", .integer request.generation.toNat),
    ("delay", .integer request.delay.wholeMillis)]

/-- A timer request as a table. -/
def TimerRequest.encode (request : TimerRequest) : Datum := .table request.fields

/-- A timer action as a table with its `action`; the timer to arm follows the tag. -/
def TimerAction.encode : TimerAction → Datum
  | keep => .table [("action", .text "keep")]
  | cancel => .table [("action", .text "cancel")]
  | arm request => .table (("action", .text "arm") :: request.fields)

/-- A transition as a table.  Of a fault only its text is written. -/
def Transition.encode (transition : Transition) : Datum :=
  .table [("event", .text transition.event.name),
    ("from", transition.source.encode),
    ("to", transition.target.encode),
    ("command", encodeOption Command.encode transition.command),
    ("updates", .list (transition.notices.map Notice.encode)),
    ("timer", transition.timer.encode),
    ("fault", encodeOption (fun fault => .text fault.message) transition.fault)]

end CallAudio
