/-
  Which data the decoders accept, and what they make of it.

  A value is written in one way, but may be spelled in others: a table may have entries that are
  not known, and lack an entry that would be empty; a tagged value may be a list; a tag that
  carries nothing may be a table of its own.  All this is about JSON.

  * `Device.Spelled`, `Notice.Spelled`, `Route.Spelled`, `Event.Spelled`: the spellings of a
    value;
  * `Device.decode?_eq_some_iff` and its like: a datum is read as a value exactly if it is a
    spelling of it;
  * `Route.Form`, `Event.Form`: the tags that are written, and what goes with them.
-/
import CallAudio.Datum.Decoding

namespace CallAudio

/-! ## Fields and tags -/

namespace Datum

/-- How a tag that carries nothing is spelled. -/
inductive SpelledTag (tag : String) : Datum → Prop
  | text : SpelledTag tag (.text tag)
  | entry : SpelledTag tag (.table [(tag, .null)])

theorem tag?_eq_some_iff {datum : Datum} {tag : String} :
    datum.tag? .json = some tag ↔ datum.SpelledTag tag := by
  constructor
  · intro h
    unfold tag? at h
    split at h
    · cases h; exact .text
    · next name value =>
      split at h
      · next hunit =>
        cases h
        cases value <;> simp [isUnit] at hunit
        exact .entry
      · cases h
    · cases h
  · rintro (_ | _) <;> rfl

theorem text?_eq_some_iff {datum : Datum} {value : String} :
    datum.text? = some value ↔ datum = .text value := by
  cases datum <;> simp [text?]

theorem natBelow?_eq_some_iff {bound n : Nat} {datum : Datum} :
    datum.natBelow? bound = some n ↔ datum = .integer n ∧ n < bound := by
  constructor
  · intro h
    refine ⟨?_, lt_of_natBelow? h⟩
    unfold natBelow? at h
    split at h
    · split at h
      · cases h; rfl
      · cases h
    · cases h
  · rintro ⟨rfl, h⟩
    exact natBelow?_integer h

theorem SpelledTag.eq {datum : Datum} {tag other : String} (h : datum.SpelledTag tag)
    (hother : datum.SpelledTag other) : tag = other := by
  cases h <;> cases hother <;> rfl

theorem eq_some_of_getD {field : Option Datum} {written : Datum}
    (h : field.getD .null = written) (hwritten : written ≠ .null) : field = some written := by
  cases field with
  | none => exact absurd h.symm hwritten
  | some datum => exact congrArg some h

theorem getD_eq_null_iff {field : Option Datum} :
    field.getD .null = .null ↔ field = none ∨ field = some .null := by
  cases field <;> simp

/-- A field that must not be empty must not be missing either. -/
theorem bind_eq_some_iff_getD {α : Type} {field : Option Datum} {read : Datum → Option α}
    {value : α} {written : Datum} (hread : ∀ datum, read datum = some value ↔ datum = written)
    (hwritten : written ≠ .null) :
    field.bind read = some value ↔ field.getD .null = written := by
  cases field with
  | none => simp [hwritten.symm]
  | some datum => exact hread datum

end Datum

/-! ## Devices and notices -/

/-- A device is spelled as its address only. -/
def Device.Spelled (device : Device) (datum : Datum) : Prop := datum = .text device.address

theorem Device.decode?_eq_some_iff (device : Device) (datum : Datum) :
    Device.decode? datum = some device ↔ datum = device.encode := by
  obtain ⟨address⟩ := device
  simp [decode?, encode, Datum.text?_eq_some_iff]

def Notice.Spelled (notice : Notice) (datum : Datum) : Prop := datum.SpelledTag notice.name

theorem Notice.find?_name {tag : String} {notice : Notice} :
    all.find? (·.name = tag) = some notice ↔ tag = notice.name := by
  constructor
  · intro h
    have hname := List.find?_some h
    exact (of_decide_eq_true hname).symm
  · rintro rfl
    cases notice <;> rfl

theorem Notice.decode?_eq_some_iff (datum : Datum) (notice : Notice) :
    decode? .json datum = some notice ↔ notice.Spelled datum := by
  have htag : notice.Spelled datum ↔ datum.tag? .json = some notice.name :=
    Datum.tag?_eq_some_iff.symm
  rw [htag, decode?]
  cases datum.tag? .json with
  | none => simp
  | some tag => exact find?_name.trans (Option.some_inj).symm

/-! ## Routes -/

/-- The entry of a route's device. -/
def Route.content (route : Route) : Datum := encodeOption Device.encode route.device?

/-- How a tag and what goes with it are spelled. -/
inductive Route.Holds (tag : String) (content : Datum) : Datum → Prop
  /-- In a table the device of a route that is off may be missing or empty. -/
  | table {entries : List (String × Datum)} {datum : Datum}
      (htag : Datum.find? entries "state" = some datum) (hspelled : datum.SpelledTag tag)
      (hdevice : (Datum.find? entries "device").getD .null = content) :
      Holds tag content (.table entries)
  | list : Holds tag content (.list [.text tag, content])

def Route.Spelled (route : Route) (datum : Datum) : Prop := Holds route.tag route.content datum

/-- The tags of the routes that belong to a device. -/
def Route.deviceTags : List String := ["audio_connecting", "audio_connected"]

/-- All tags of routes. -/
def Route.tags : List String := "audio_off" :: deviceTags

/-- The tags of routes, and what goes with them. -/
inductive Route.Form : String → Datum → Prop
  | off : Form "audio_off" .null
  | device {tag : String} (htag : tag ∈ deviceTags) (address : String) : Form tag (.text address)

namespace Route

theorem form_iff {tag : String} {content : Datum} :
    Form tag content ↔ ∃ route : Route, route.tag = tag ∧ route.content = content := by
  constructor
  · rintro (_ | ⟨htag, address⟩)
    · exact ⟨.off, rfl, rfl⟩
    · simp only [deviceTags, List.mem_cons, List.not_mem_nil, or_false] at htag
      rcases htag with rfl | rfl
      · exact ⟨.connecting ⟨address⟩, rfl, rfl⟩
      · exact ⟨.connected ⟨address⟩, rfl, rfl⟩
  · rintro ⟨route, rfl, rfl⟩
    cases route with
    | off => exact .off
    | connecting device | connected device =>
      exact .device (by simp [deviceTags, Route.tag]) device.address

theorem assemble?_eq_some_iff {tag : String} {device : Option Datum} {route : Route} :
    assemble? tag device = some route ↔ tag = route.tag ∧ device.getD .null = route.content := by
  constructor
  · intro h
    unfold assemble? at h
    split at h
    · cases h; exact ⟨rfl, rfl⟩
    · cases h; exact ⟨rfl, rfl⟩
    · obtain ⟨device, hdevice, rfl⟩ := Option.map_eq_some_iff.1 h
      exact ⟨rfl, (Device.decode?_eq_some_iff ..).1 hdevice⟩
    · obtain ⟨device, hdevice, rfl⟩ := Option.map_eq_some_iff.1 h
      exact ⟨rfl, (Device.decode?_eq_some_iff ..).1 hdevice⟩
    · cases h
  · rintro ⟨rfl, h⟩
    cases route with
    | off => rcases Datum.getD_eq_null_iff.1 h with rfl | rfl <;> rfl
    | connecting _ | connected _ =>
      rw [Datum.eq_some_of_getD h nofun]
      rfl

theorem decode?_table (entries : List (String × Datum)) (route : Route) :
    decode? .json (.table entries) = some route ↔ route.Spelled (.table entries) := by
  have hread : decode? .json (.table entries) = some route ↔
      ∃ tag, (Datum.find? entries "state").bind (Datum.tag? .json) = some tag ∧
        assemble? tag (Datum.find? entries "device") = some route :=
    Option.bind_eq_some_iff
  rw [hread]
  constructor
  · rintro ⟨tag, htag, h⟩
    obtain ⟨datum, hdatum, hspelled⟩ := Option.bind_eq_some_iff.1 htag
    obtain ⟨rfl, hdevice⟩ := assemble?_eq_some_iff.1 h
    exact .table hdatum (Datum.tag?_eq_some_iff.1 hspelled) hdevice
  · intro h
    cases h with
    | table htag hspelled hdevice =>
      refine ⟨route.tag, ?_, assemble?_eq_some_iff.2 ⟨rfl, hdevice⟩⟩
      rw [htag]
      exact Datum.tag?_eq_some_iff.2 hspelled

theorem decode?_list (items : List Datum) (route : Route) :
    decode? .json (.list items) = some route ↔ items = [.text route.tag, route.content] := by
  constructor
  · intro h
    unfold decode? at h
    split at h
    · next heq => cases heq
    · next tag device surplus heq =>
      cases heq
      split at h
      · next hsurplus =>
        have hnone : surplus = [] := by simpa [Format.ignoresSurplus] using hsurplus
        obtain ⟨rfl, hdevice⟩ := assemble?_eq_some_iff.1 h
        rw [hnone, ← hdevice, Option.getD_some]
      · cases h
    · cases h
  · rintro rfl
    exact assemble?_eq_some_iff.2 ⟨rfl, rfl⟩

theorem decode?_eq_some_iff (datum : Datum) (route : Route) :
    decode? .json datum = some route ↔ route.Spelled datum := by
  cases datum with
  | table entries => exact decode?_table entries route
  | list items =>
    rw [decode?_list]
    constructor
    · rintro rfl
      exact .list
    · rintro ⟨_⟩
      rfl
  | _ => exact ⟨nofun, nofun⟩

theorem spelled_encode (route : Route) : route.Spelled route.encode := by
  cases route with
  | off => exact .table rfl .text rfl
  | connecting device | connected device => exact .table rfl .text rfl

end Route

/-! ## Events -/

/-- The tags of the events that are about a device. -/
def Event.addressTags : List String :=
  ["device_added", "device_lost", "hfp_audio_on", "hfp_audio_lost"]

/-- The tags of the expiries of timers. -/
def Event.timerTags : List String := ["connection_timeout", "retry_connect"]

/-- All tags of events. -/
def Event.tags : List String := "connect_hfp" :: "disconnect_hfp" :: (addressTags ++ timerTags)

/-- The tags of events, and the fields that go with them. -/
inductive Event.Form : String → List (String × Datum) → Prop
  | anyDevice : Form "connect_hfp" [("device", .null)]
  | device (address : String) : Form "connect_hfp" [("device", .text address)]
  | disconnect : Form "disconnect_hfp" []
  | address {tag : String} (htag : tag ∈ addressTags) (address : String) :
      Form tag [("address", .text address)]
  | generation {tag : String} (htag : tag ∈ timerTags) {generation : Nat}
      (hword : generation < UInt64.size) : Form tag [("generation", .integer generation)]

/-- How a tag and the fields that go with it are spelled. -/
inductive Event.Holds (tag : String) (fields : List (String × Datum)) : Datum → Prop
  /-- In a table the device of a connect request may be missing or empty. -/
  | table {entries : List (String × Datum)}
      (htag : Datum.find? entries "type" = some (.text tag))
      (hfields : ∀ field ∈ fields, (Datum.find? entries field.1).getD .null = field.2) :
      Holds tag fields (.table entries)
  | list : Holds tag fields (.list (.text tag :: fields.map (·.2)))

def Event.Spelled (event : Event) (datum : Datum) : Prop := Holds event.name event.fields datum

namespace Event

theorem form_iff {tag : String} {fields : List (String × Datum)} :
    Form tag fields ↔ ∃ event : Event, event.name = tag ∧ event.fields = fields := by
  constructor
  · intro h
    cases h with
    | anyDevice => exact ⟨.connect none, rfl, rfl⟩
    | device address => exact ⟨.connect (some ⟨address⟩), rfl, rfl⟩
    | disconnect => exact ⟨.disconnect, rfl, rfl⟩
    | address htag address =>
      simp only [addressTags, List.mem_cons, List.not_mem_nil, or_false] at htag
      rcases htag with rfl | rfl | rfl | rfl
      · exact ⟨.deviceAdded ⟨address⟩, rfl, rfl⟩
      · exact ⟨.deviceLost ⟨address⟩, rfl, rfl⟩
      · exact ⟨.audioOn ⟨address⟩, rfl, rfl⟩
      · exact ⟨.audioLost ⟨address⟩, rfl, rfl⟩
    | @generation _ htag generation hword =>
      have hword : (UInt64.ofNat generation).toNat = generation := UInt64.toNat_ofNat_of_lt' hword
      simp only [timerTags, List.mem_cons, List.not_mem_nil, or_false] at htag
      rcases htag with rfl | rfl
      · exact ⟨.expired .confirmation (.ofNat generation), rfl, by rw [fields, hword]⟩
      · exact ⟨.expired .retry (.ofNat generation), rfl, by rw [fields, hword]⟩
  · rintro ⟨event, rfl, rfl⟩
    cases event with
    | connect requested =>
      cases requested with
      | none => exact .anyDevice
      | some device => exact .device device.address
    | disconnect => exact .disconnect
    | deviceAdded device | deviceLost device | audioOn device | audioLost device =>
      exact .address (by simp [addressTags, name, kind, EventKind.name]) device.address
    | expired kind generation =>
      refine .generation ?_ generation.toNat_lt
      cases kind <;> simp [timerTags, name, Event.kind, EventKind.name, TimerKind.name]

theorem decodeRequested?_eq_some_iff {field : Option Datum} {requested : Option Device} :
    decodeRequested? field = some requested ↔
      field.getD .null = encodeOption Device.encode requested := by
  constructor
  · intro h
    unfold decodeRequested? at h
    split at h
    · cases h; rfl
    · cases h; rfl
    · obtain ⟨device, hdevice, rfl⟩ := Option.map_eq_some_iff.1 h
      exact (Device.decode?_eq_some_iff ..).1 hdevice
  · intro h
    cases requested with
    | none => rcases Datum.getD_eq_null_iff.1 h with rfl | rfl <;> rfl
    | some device => rw [Datum.eq_some_of_getD h nofun]; rfl

theorem decodeGeneration?_eq_some_iff (datum : Datum) (generation : UInt64) :
    decodeGeneration? datum = some generation ↔ datum = .integer generation.toNat := by
  have hword : generation.toNat < wordBound := generation.toNat_lt
  rw [decodeGeneration?, Option.map_eq_some_iff]
  constructor
  · rintro ⟨n, hn, rfl⟩
    obtain ⟨rfl, hlt⟩ := Datum.natBelow?_eq_some_iff.1 hn
    rw [UInt64.toNat_ofNat_of_lt' hlt]
  · rintro rfl
    exact ⟨_, Datum.natBelow?_integer hword, generation.ofNat_toNat⟩

/-- An event that is read from one field. -/
theorem map_bind_eq_some_iff {α : Type} {field : Option Datum} {read : Datum → Option α}
    {make : α → Event} {write : α → Datum}
    (hread : ∀ datum value, read datum = some value ↔ datum = write value)
    (hwrite : ∀ value, write value ≠ .null) {event : Event} :
    (field.bind read).map make = some event ↔
      ∃ value, field.getD .null = write value ∧ make value = event := by
  rw [Option.map_eq_some_iff]
  exact exists_congr fun value => and_congr_left' <|
    Datum.bind_eq_some_iff_getD (fun datum => hread datum value) (hwrite value)

theorem assemble?_eq_some_iff {tag : String} {field : String → Option Datum} {event : Event} :
    assemble? tag field = some event ↔
      tag = event.name ∧ ∀ entry ∈ event.fields, (field entry.1).getD .null = entry.2 := by
  have haddress {make : Device → Event} :
      ((field "address").bind Device.decode?).map make = some event ↔
        ∃ device, (field "address").getD .null = device.encode ∧ make device = event :=
    map_bind_eq_some_iff (fun datum device => Device.decode?_eq_some_iff device datum) nofun
  have hgeneration {make : UInt64 → Event} :
      ((field "generation").bind decodeGeneration?).map make = some event ↔
        ∃ generation : UInt64, (field "generation").getD .null = .integer generation.toNat ∧
          make generation = event :=
    map_bind_eq_some_iff decodeGeneration?_eq_some_iff nofun
  constructor
  · intro h
    unfold assemble? at h
    split at h
    case h_1 =>
      obtain ⟨requested, hrequested, rfl⟩ := Option.map_eq_some_iff.1 h
      exact ⟨rfl, List.forall_mem_singleton.2 (decodeRequested?_eq_some_iff.1 hrequested)⟩
    case h_2 => cases h; exact ⟨rfl, nofun⟩
    case h_3 | h_4 | h_5 | h_6 =>
      obtain ⟨device, hdevice, rfl⟩ := haddress.1 h
      exact ⟨rfl, List.forall_mem_singleton.2 hdevice⟩
    case h_7 | h_8 =>
      obtain ⟨generation, hwritten, rfl⟩ := hgeneration.1 h
      exact ⟨rfl, List.forall_mem_singleton.2 hwritten⟩
    case h_9 => cases h
  · rintro ⟨rfl, h⟩
    cases event with
    | connect requested =>
      have hdevice := h ("device", encodeOption Device.encode requested) List.mem_cons_self
      exact Option.map_eq_some_iff.2 ⟨requested, decodeRequested?_eq_some_iff.2 hdevice, rfl⟩
    | disconnect => rfl
    | deviceAdded device | deviceLost device | audioOn device | audioLost device =>
      exact haddress.2 ⟨device, h ("address", device.encode) List.mem_cons_self, rfl⟩
    | expired kind generation =>
      have hwritten := h ("generation", .integer generation.toNat) List.mem_cons_self
      cases kind <;> exact hgeneration.2 ⟨generation, hwritten, rfl⟩

theorem decode?_table (entries : List (String × Datum)) (event : Event) :
    decode? (.table entries) = some event ↔ event.Spelled (.table entries) := by
  have hread : decode? (.table entries) = some event ↔
      ∃ tag, (Datum.find? entries "type").bind Datum.text? = some tag ∧
        assemble? tag (Datum.find? entries) = some event :=
    Option.bind_eq_some_iff
  rw [hread]
  constructor
  · rintro ⟨tag, htag, h⟩
    obtain ⟨datum, hdatum, htext⟩ := Option.bind_eq_some_iff.1 htag
    obtain ⟨rfl, hfields⟩ := assemble?_eq_some_iff.1 h
    rw [Datum.text?_eq_some_iff.1 htext] at hdatum
    exact .table hdatum hfields
  · intro h
    cases h with
    | table htag hfields =>
      refine ⟨event.name, ?_, assemble?_eq_some_iff.2 ⟨rfl, hfields⟩⟩
      rw [htag]; rfl

theorem fields_cases (event : Event) :
    event = .disconnect ∨ event.name ≠ "disconnect_hfp" ∧ ∃ field, event.fields = [field] := by
  cases event with
  | disconnect => exact .inl rfl
  | expired kind generation =>
    exact .inr ⟨by cases kind <;> simp [name, Event.kind, EventKind.name, TimerKind.name], _, rfl⟩
  | _ => exact .inr ⟨by simp [name, kind, EventKind.name], _, rfl⟩

theorem decode?_list (items : List Datum) (event : Event) :
    decode? (.list items) = some event ↔ items = .text event.name :: event.fields.map (·.2) := by
  constructor
  · intro h
    unfold decode? at h
    split at h
    · next heq => cases heq
    · next heq => cases heq; cases h; rfl
    · next tag datum heq =>
      cases heq
      split at h
      · cases h
      · next hne =>
        obtain ⟨rfl, hfields⟩ := assemble?_eq_some_iff.1 h
        rcases event.fields_cases with rfl | ⟨-, field, hfield⟩
        · exact absurd rfl hne
        · rw [hfield] at hfields ⊢
          have hdatum : datum = field.2 := hfields field List.mem_cons_self
          rw [hdatum]; rfl
    · cases h
  · rintro rfl
    rcases event.fields_cases with rfl | ⟨hne, field, hfield⟩
    · rfl
    · have hassemble : assemble? event.name (fun _ => some field.2) = some event := by
        refine assemble?_eq_some_iff.2 ⟨rfl, ?_⟩
        rw [hfield, List.forall_mem_singleton]
        rfl
      rw [hfield]
      simp only [List.map_cons, List.map_nil, decode?, if_neg hne]
      exact hassemble

theorem decode?_eq_some_iff (datum : Datum) (event : Event) :
    decode? datum = some event ↔ event.Spelled datum := by
  cases datum with
  | table entries => exact decode?_table entries event
  | list items =>
    rw [decode?_list]
    constructor
    · rintro rfl
      exact .list
    · rintro ⟨_⟩
      rfl
  | _ => exact ⟨nofun, nofun⟩

theorem spelled_encode (event : Event) : event.Spelled event.encode := by
  have hfind : ∀ field ∈ event.fields,
      Datum.find? (("type", .text event.name) :: event.fields) field.1 = some field.2 := by
    cases event with
    | disconnect => exact nofun
    | _ => exact List.forall_mem_singleton.2 rfl
  refine .table rfl fun field hmem => ?_
  rw [hfind field hmem]
  rfl

/-- Where the tag of an event stands in a datum. -/
def tagOf? : Datum → Option Datum
  | .table entries => Datum.find? entries "type"
  | .list items => items.head?
  | _ => none

theorem Spelled.tagOf? {event : Event} {datum : Datum} (h : event.Spelled datum) :
    tagOf? datum = some (.text event.name) := by
  cases h with
  | table htag => exact htag
  | list => rfl

end Event

end CallAudio
