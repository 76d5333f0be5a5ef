/-
  Scripts: routing sequences to be replayed.

  A script says which devices are connected at first and what the route is, and then what
  happens, step by step.

  * `Step`, `Script`: scripts;
  * `Script.ofToml?`, `Script.load`: reading them.
-/
import CallAudio.Datum.Decoding
import CallAudio.Files.Content
import CallAudio.Files.LoadError
import CallAudio.Toml.Document

namespace CallAudio

/-- Something that happens in a script. -/
inductive Step where
  /-- These devices are connected now, the one connected last first. -/
  | setConnected (devices : List Device)
  /-- The stack reports audio on these devices now. -/
  | setActive (devices : List Device)
  /-- The headset accepts or refuses requests from now on. -/
  | setAccepts (accepts : Bool)
  /-- The service gets an event. -/
  | send (event : Event)
  /-- Time passes. -/
  | wait (ms : Nat)
deriving DecidableEq, Inhabited

/-- A routing sequence to be replayed. -/
structure Script where
  /-- The devices connected at first, the one connected last first. -/
  connected : List Device := []
  /-- The route at first. -/
  initial : Route := .off
  /-- What happens, in order. -/
  steps : List Step := []
deriving DecidableEq, Inhabited

namespace Step

/-- A step from its tag and its field. -/
def assemble? (tag : String) (field : String → Option Datum) : Option Step :=
  match tag with
  | "set_connected" => ((field "devices").bind Device.decodeList?).map setConnected
  | "set_audio_active" => ((field "devices").bind Device.decodeList?).map setActive
  | "set_accept_connect" => ((field "accept").bind Datum.bool?).map setAccepts
  | "send" => ((field "event").bind Event.decode?).map send
  | "wait" => ((field "ms").bind (Datum.natBelow? wordBound)).map wait
  | _ => none

/-- A step from data: a table with its `action`, or the list of its tag and its field. -/
def decode? : Datum → Option Step
  | .table entries => do
    let tag ← (Datum.find? entries "action").bind Datum.text?
    assemble? tag (Datum.find? entries)
  | .list [.text tag, datum] => assemble? tag fun _ => some datum
  | _ => none

/-- A step as data. -/
def encode : Step → Datum
  | setConnected devices =>
    .table [("action", .text "set_connected"), ("devices", .list (devices.map Device.encode))]
  | setActive devices =>
    .table [("action", .text "set_audio_active"), ("devices", .list (devices.map Device.encode))]
  | setAccepts accepts =>
    .table [("action", .text "set_accept_connect"), ("accept", .bool accepts)]
  | send event => .table [("action", .text "send"), ("event", event.encode)]
  | wait ms => .table [("action", .text "wait"), ("ms", .integer ms)]

end Step

namespace Script

/-- A script from data. -/
def decode? (format : Format) (datum : Datum) : Option Script := do
  match ← datum.record? format ["connected", "initial_state", "step"] with
  | [connected, initial, steps] =>
    return { connected := ← Datum.orElse [] Device.decodeList? connected
             initial := ← Datum.orElse .off (Route.decode? format) initial
             steps := ← Datum.orElse [] (Datum.listOf? Step.decode?) steps }
  | _ => none

/-- A script as data. -/
def encode (script : Script) : Datum :=
  .table [("connected", .list (script.connected.map Device.encode)),
    ("initial_state", script.initial.encode),
    ("steps", .list (script.steps.map Step.encode))]

/-- The script that a TOML document holds. -/
def ofToml? (text : String) : Option Script := do
  decode? .toml (← Datum.ofToml? text)

/-- The script in a text. -/
def parse (text : String) : Except LoadError Script :=
  match ofToml? text with
  | some script => .ok script
  | none => .error .scriptMalformed

/-- The script in a file. -/
def load (path : String) : FileContent → Except LoadError Script
  | .missing | .unreadable => .error (.scriptUnreadable path)
  | .text text => parse text

end Script

end CallAudio
