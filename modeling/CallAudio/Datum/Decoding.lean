/-
  The values of this library from structured data.

  Decoders accept what `encode` writes, and these variations of it:

  * entries that are not known do not matter, and the order of entries does not either;
  * a tagged value may be the list of its tag and its fields;
  * a connect request may lack its `device`, and a route that is off may have an empty
    one;
  * the tag of a route in a table, and a notice, may be a table whose one entry is the
    name.

  Anything else is refused: a decoder then returns `none`.
-/
import CallAudio.Datum.Encoding

namespace CallAudio

/-- Whole numbers of 64 bits lie below this bound. -/
def wordBound : Nat := UInt64.size

/-- A device from its address. -/
def Device.decode? (datum : Datum) : Option Device := datum.text?.map .mk

/-- A list of devices. -/
def Device.decodeList? : Datum → Option (List Device) := Datum.listOf? Device.decode?

namespace Event

/-- The device a connect request names, if any. -/
def decodeRequested? : Option Datum → Option (Option Device)
  | none | some .null => some none
  | some datum => (Device.decode? datum).map some

/-- A generation. -/
def decodeGeneration? (datum : Datum) : Option UInt64 :=
  (datum.natBelow? wordBound).map UInt64.ofNat

/-- An event from its tag and its fields. -/
def assemble? (tag : String) (field : String → Option Datum) : Option Event :=
  match tag with
  | "connect_hfp" => (decodeRequested? (field "device")).map connect
  | "disconnect_hfp" => some disconnect
  | "device_added" => ((field "address").bind Device.decode?).map deviceAdded
  | "device_lost" => ((field "address").bind Device.decode?).map deviceLost
  | "hfp_audio_on" => ((field "address").bind Device.decode?).map audioOn
  | "hfp_audio_lost" => ((field "address").bind Device.decode?).map audioLost
  | "connection_timeout" =>
    ((field "generation").bind decodeGeneration?).map (expired .confirmation)
  | "retry_connect" => ((field "generation").bind decodeGeneration?).map (expired .retry)
  | _ => none

/-- An event.  Given by position, it has its tag and its one field, or its tag alone if it
    has no field. -/
def decode? : Datum → Option Event
  | .table entries => do
    let tag ← (Datum.find? entries "type").bind Datum.text?
    assemble? tag (Datum.find? entries)
  | .list [.text "disconnect_hfp"] => some disconnect
  | .list [.text tag, datum] =>
    if tag = "disconnect_hfp" then none else assemble? tag fun _ => some datum
  | _ => none

end Event

namespace Route

/-- A route from its tag and its device. -/
def assemble? (tag : String) (device : Option Datum) : Option Route :=
  match tag, device with
  | "audio_off", none | "audio_off", some .null => some off
  | "audio_connecting", some device => (Device.decode? device).map connecting
  | "audio_connected", some device => (Device.decode? device).map connected
  | _, _ => none

/-- A route.  Given by position, it has both its tag, as a text, and its device. -/
def decode? (format : Format) : Datum → Option Route
  | .table entries => do
    let tag ← (Datum.find? entries "state").bind (Datum.tag? format)
    assemble? tag (Datum.find? entries "device")
  | .list (.text tag :: device :: surplus) =>
    if surplus.isEmpty || format.ignoresSurplus then assemble? tag (some device) else none
  | _ => none

end Route

/-- All notices. -/
def Notice.all : List Notice :=
  [deviceListChanged, deviceAvailable, deviceUnavailable, audioConnected, audioDisconnected]

/-- A notice from its name. -/
def Notice.decode? (format : Format) (datum : Datum) : Option Notice := do
  let name ← datum.tag? format
  Notice.all.find? (·.name = name)

end CallAudio
