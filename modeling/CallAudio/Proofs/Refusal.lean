/-
  What is written, and what is refused.

  * `Device.Canonical`, `Notice.Canonical`, `Route.Canonical`, `Event.Canonical`: what is written;
  * `Device.Malformed`, `Notice.Malformed`, `Route.Malformed`, `Event.Malformed`: what is wrong
    with a datum that is refused;
  * `Agree`: an encoder and a decoder that agree with these, with the spellings of values, and
    with each other;
  * `encoders_decoders_agree`: those of devices, notices, routes and events do.
-/
import CallAudio.Proofs.Spelling

namespace CallAudio

/-- An encoder and a decoder, and which data spell a value, which data are written, and which are
    refused. -/
structure Agree {α : Type} (encode : α → Datum) (decode? : Datum → Option α)
    (Spelled : α → Datum → Prop) (Canonical Malformed : Datum → Prop) : Prop where
  /-- What is written is read back. -/
  decode_encode : ∀ value, decode? (encode value) = some value
  /-- The spellings of a value are read as that value, and nothing else is. -/
  accepted : ∀ datum value, decode? datum = some value ↔ Spelled value datum
  /-- What is read is written in its canonical form, and read back from that. -/
  reencoded : ∀ datum value, decode? datum = some value →
    Canonical (encode value) ∧ decode? (encode value) = some value
  /-- A canonical form is what is written of the value read from it, and so is written again. -/
  canonical : ∀ datum, Canonical datum ↔ ∃ value, decode? datum = some value ∧ encode value = datum
  /-- What is malformed is refused, and nothing else is. -/
  refused : ∀ datum, decode? datum = none ↔ Malformed datum

theorem Agree.of {α : Type} {encode : α → Datum} {decode? : Datum → Option α}
    {Spelled : α → Datum → Prop} {Canonical Malformed : Datum → Prop}
    (accepted : ∀ datum value, decode? datum = some value ↔ Spelled value datum)
    (written : ∀ value, Spelled value (encode value))
    (canonical : ∀ datum, Canonical datum ↔ ∃ value, encode value = datum)
    (refused : ∀ datum, Malformed datum ↔ ∀ value, ¬ Spelled value datum) :
    Agree encode decode? Spelled Canonical Malformed := by
  have hback (value : α) : decode? (encode value) = some value :=
    (accepted _ value).2 (written value)
  refine ⟨hback, accepted, fun _ value _ => ⟨(canonical _).2 ⟨value, rfl⟩, hback value⟩, ?_, ?_⟩
  · intro datum
    rw [canonical]
    constructor
    · rintro ⟨value, rfl⟩
      exact ⟨value, hback value, rfl⟩
    · rintro ⟨value, -, rfl⟩
      exact ⟨value, rfl⟩
  · intro datum
    rw [refused, Option.eq_none_iff_forall_ne_some]
    exact forall_congr' fun value => not_congr (accepted datum value)

/-! ## Devices and notices -/

def Device.Canonical (datum : Datum) : Prop := ∃ address, datum = .text address

def Device.Malformed (datum : Datum) : Prop := ∀ address, datum ≠ .text address

theorem Device.agree :
    Agree encode decode? Device.Spelled Device.Canonical Device.Malformed := by
  refine .of (fun datum device => decode?_eq_some_iff device datum) (fun _ => rfl) ?_ ?_
  · intro datum
    exact ⟨fun ⟨address, h⟩ => ⟨⟨address⟩, h.symm⟩, fun ⟨device, h⟩ => ⟨device.address, h.symm⟩⟩
  · intro datum
    exact ⟨fun h device => h device.address, fun h address => h ⟨address⟩⟩

/-- The names of the notices. -/
def Notice.tags : List String :=
  ["device_list_changed", "device_available", "device_unavailable", "audio_connected",
    "audio_disconnected"]

def Notice.Canonical (datum : Datum) : Prop := ∃ tag ∈ tags, datum = .text tag

def Notice.Malformed (datum : Datum) : Prop := ∀ tag ∈ tags, ¬ datum.SpelledTag tag

theorem Notice.mem_tags_iff {tag : String} : tag ∈ tags ↔ ∃ notice : Notice, notice.name = tag := by
  constructor
  · intro h
    have hname : tag ∈ all.map name := h
    obtain ⟨notice, -, heq⟩ := List.mem_map.1 hname
    exact ⟨notice, heq⟩
  · rintro ⟨notice, rfl⟩
    cases notice <;> simp [tags, name]

theorem Notice.agree :
    Agree encode (decode? .json) Notice.Spelled Notice.Canonical Notice.Malformed := by
  refine .of decode?_eq_some_iff (fun _ => .text) ?_ ?_
  · intro datum
    constructor
    · rintro ⟨tag, htag, rfl⟩
      obtain ⟨notice, rfl⟩ := mem_tags_iff.1 htag
      exact ⟨notice, rfl⟩
    · rintro ⟨notice, rfl⟩
      exact ⟨notice.name, mem_tags_iff.2 ⟨notice, rfl⟩, rfl⟩
  · intro datum
    constructor
    · intro h notice
      exact h notice.name (mem_tags_iff.2 ⟨notice, rfl⟩)
    · intro h tag htag
      obtain ⟨notice, rfl⟩ := mem_tags_iff.1 htag
      exact h notice

/-! ## Routes -/

/-- Whether a datum may hold a tag and what goes with it. -/
def Datum.isRecord : Datum → Bool
  | list _ | table _ => true
  | null | bool _ | integer _ | real _ | text _ | moment _ => false

inductive Route.Canonical : Datum → Prop
  | off : Canonical (.table [("state", .text "audio_off")])
  | device {tag : String} (htag : tag ∈ deviceTags) (address : String) :
      Canonical (.table [("state", .text tag), ("device", .text address)])

inductive Route.Malformed : Datum → Prop
  /-- Neither a table nor a list. -/
  | plain {datum : Datum} (h : datum.isRecord = false) : Malformed datum
  /-- The tag is missing, of the wrong type, or not known. -/
  | tag {entries : List (String × Datum)}
      (htag : ∀ tag ∈ tags, ∀ datum : Datum, datum.SpelledTag tag →
        Datum.find? entries "state" ≠ some datum) : Malformed (.table entries)
  /-- There is a device although the route is off. -/
  | surplus {entries : List (String × Datum)} {tag device : Datum}
      (htag : Datum.find? entries "state" = some tag) (hspelled : tag.SpelledTag "audio_off")
      (hdevice : Datum.find? entries "device" = some device) (hnull : device ≠ .null) :
      Malformed (.table entries)
  /-- The device is missing, empty or of the wrong type. -/
  | device {entries : List (String × Datum)} {tag : String} {datum : Datum}
      (htag : Datum.find? entries "state" = some datum) (hspelled : datum.SpelledTag tag)
      (hneeds : tag ∈ deviceTags)
      (hdevice : ∀ address, Datum.find? entries "device" ≠ some (.text address)) :
      Malformed (.table entries)
  /-- The items are not a tag and what goes with it. -/
  | items {items : List Datum}
      (h : ∀ tag content, Form tag content → items ≠ [.text tag, content]) :
      Malformed (.list items)

namespace Route

theorem Malformed.not_holds {datum content : Datum} {tag : String} (h : Malformed datum)
    (hform : Form tag content) : ¬ Holds tag content datum := by
  intro hholds
  cases hholds with
  | list =>
    cases h with
    | plain h => cases h
    | items h => exact h tag content hform rfl
  | table htag hspelled hcontent =>
    cases h with
    | plain h => cases h
    | tag hunknown =>
      cases hform with
      | off => exact hunknown _ List.mem_cons_self _ hspelled htag
      | device hneeds => exact hunknown _ (.tail _ hneeds) _ hspelled htag
    | surplus htag' hoff hdevice hnull =>
      cases htag'.symm.trans htag
      rw [hdevice] at hcontent
      cases hform with
      | off => exact hnull hcontent
      | device hneeds => rw [← hoff.eq hspelled] at hneeds; simp [deviceTags] at hneeds
    | device htag' hneeded hneeds hdevice =>
      cases htag'.symm.trans htag
      cases hform with
      | off => rw [hneeded.eq hspelled] at hneeds; simp [deviceTags] at hneeds
      | device _ address => exact hdevice address (Datum.eq_some_of_getD hcontent (by simp))

theorem malformed_table {entries : List (String × Datum)}
    (h : ∀ tag content, Form tag content → ¬ Holds tag content (.table entries)) :
    Malformed (.table entries) := by
  by_cases hknown : ∃ tag ∈ tags, ∃ datum : Datum,
      datum.SpelledTag tag ∧ Datum.find? entries "state" = some datum
  · obtain ⟨tag, hmem, datum, hspelled, htag⟩ := hknown
    have hdevice {content : Datum} (hform : Form tag content) :
        (Datum.find? entries "device").getD .null ≠ content := fun hcontent =>
      h tag content hform (.table htag hspelled hcontent)
    rcases List.mem_cons.1 hmem with rfl | hneeds
    · cases hfind : Datum.find? entries "device" with
      | none => exact absurd (by rw [hfind]; rfl) (hdevice .off)
      | some device =>
        exact .surplus htag hspelled hfind fun hnull => hdevice .off (by rw [hfind, hnull]; rfl)
    · exact .device htag hspelled hneeds fun address hfind =>
        hdevice (.device hneeds address) (by rw [hfind]; rfl)
  · exact .tag fun tag hmem datum hspelled htag => hknown ⟨tag, hmem, datum, hspelled, htag⟩

theorem malformed_iff (datum : Datum) :
    Route.Malformed datum ↔ ∀ route : Route, ¬ route.Spelled datum := by
  constructor
  · intro h route
    exact h.not_holds (form_iff.2 ⟨route, rfl, rfl⟩)
  · intro h
    have hform (tag : String) (content : Datum) (hform : Form tag content) :
        ¬ Holds tag content datum := by
      obtain ⟨route, rfl, rfl⟩ := form_iff.1 hform
      exact h route
    cases datum with
    | table entries => exact malformed_table hform
    | list items =>
      refine .items fun tag content hcontent heq => hform tag content hcontent ?_
      rw [heq]
      exact .list
    | _ => exact .plain rfl

theorem agree : Agree encode (decode? .json) Route.Spelled Route.Canonical Route.Malformed := by
  refine .of decode?_eq_some_iff spelled_encode (fun datum => ?_) malformed_iff
  constructor
  · rintro (_ | ⟨htag, address⟩)
    · exact ⟨.off, rfl⟩
    · obtain ⟨route, rfl, hcontent⟩ := form_iff.1 (.device htag address)
      cases route with
      | off => cases hcontent
      | connecting device | connected device => cases hcontent; exact ⟨_, rfl⟩
  · rintro ⟨route, rfl⟩
    cases route with
    | off => exact .off
    | connecting device | connected device =>
      exact .device (by simp [deviceTags, Route.tag]) device.address

end Route

/-! ## Events -/

def Event.Canonical (datum : Datum) : Prop :=
  ∃ tag fields, Form tag fields ∧ datum = .table (("type", .text tag) :: fields)

inductive Event.Malformed : Datum → Prop
  /-- Neither a table nor a list. -/
  | plain {datum : Datum} (h : datum.isRecord = false) : Malformed datum
  /-- The tag is missing, of the wrong type, or not known. -/
  | tag {entries : List (String × Datum)}
      (htag : ∀ tag ∈ tags, Datum.find? entries "type" ≠ some (.text tag)) :
      Malformed (.table entries)
  /-- The device of a connect request is of the wrong type. -/
  | device {entries : List (String × Datum)} {device : Datum}
      (htag : Datum.find? entries "type" = some (.text "connect_hfp"))
      (hdevice : Datum.find? entries "device" = some device) (hnull : device ≠ .null)
      (htext : ∀ address, device ≠ .text address) : Malformed (.table entries)
  /-- The address is missing, empty or of the wrong type. -/
  | address {entries : List (String × Datum)} {tag : String}
      (htag : Datum.find? entries "type" = some (.text tag)) (hneeds : tag ∈ addressTags)
      (haddress : ∀ address, Datum.find? entries "address" ≠ some (.text address)) :
      Malformed (.table entries)
  /-- The generation is missing, or not written as a whole number of 64 bits. -/
  | generation {entries : List (String × Datum)} {tag : String}
      (htag : Datum.find? entries "type" = some (.text tag)) (hneeds : tag ∈ timerTags)
      (hgeneration : ∀ generation < UInt64.size,
        Datum.find? entries "generation" ≠ some (.integer (generation : Nat))) :
      Malformed (.table entries)
  /-- The items are not a tag and the fields that go with it. -/
  | items {items : List Datum}
      (h : ∀ tag fields, Form tag fields → items ≠ .text tag :: fields.map (·.2)) :
      Malformed (.list items)

namespace Event

theorem Form.mem_tags {tag : String} {fields : List (String × Datum)} (h : Form tag fields) :
    tag ∈ tags := by
  cases h with
  | anyDevice | device => exact List.mem_cons_self
  | disconnect => exact .tail _ List.mem_cons_self
  | address htag => exact .tail _ (.tail _ (List.mem_append_left _ htag))
  | generation htag => exact .tail _ (.tail _ (List.mem_append_right _ htag))

theorem not_mem_timerTags {tag : String} (h : tag ∈ addressTags) : tag ∉ timerTags := by
  intro htimer
  simp only [timerTags, List.mem_cons, List.not_mem_nil, or_false] at htimer
  rcases htimer with rfl | rfl <;> simp [addressTags] at h

theorem Form.fields_connect {tag : String} {fields : List (String × Datum)}
    (h : Form tag fields) (htag : tag = "connect_hfp") :
    fields = [("device", .null)] ∨ ∃ address, fields = [("device", .text address)] := by
  cases h with
  | anyDevice => exact .inl rfl
  | device address => exact .inr ⟨address, rfl⟩
  | disconnect => simp at htag
  | address hmem => subst htag; simp [addressTags] at hmem
  | generation hmem => subst htag; simp [timerTags] at hmem

theorem Form.fields_address {tag : String} {fields : List (String × Datum)}
    (h : Form tag fields) (htag : tag ∈ addressTags) :
    ∃ address, fields = [("address", .text address)] := by
  cases h with
  | anyDevice | device | disconnect => simp [addressTags] at htag
  | address _ address => exact ⟨address, rfl⟩
  | generation hmem => exact absurd hmem (not_mem_timerTags htag)

theorem Form.fields_timer {tag : String} {fields : List (String × Datum)}
    (h : Form tag fields) (htag : tag ∈ timerTags) :
    ∃ generation : Nat, generation < UInt64.size ∧
      fields = [("generation", .integer generation)] := by
  cases h with
  | anyDevice | device | disconnect => simp [timerTags] at htag
  | address hmem => exact absurd htag (not_mem_timerTags hmem)
  | generation _ hword => exact ⟨_, hword, rfl⟩

theorem Malformed.not_holds {datum : Datum} {tag : String} {fields : List (String × Datum)}
    (h : Malformed datum) (hform : Form tag fields) : ¬ Holds tag fields datum := by
  intro hholds
  cases hholds with
  | list =>
    cases h with
    | plain h => cases h
    | items h => exact h tag fields hform rfl
  | table htag hfields =>
    cases h with
    | plain h => cases h
    | tag hunknown => exact hunknown tag hform.mem_tags htag
    | device htag' hdevice hnull htext =>
      have hname : tag = "connect_hfp" :=
        Datum.text.inj (Option.some.inj (htag.symm.trans htag'))
      rcases hform.fields_connect hname with rfl | ⟨address, rfl⟩
      · rw [List.forall_mem_singleton, hdevice] at hfields
        exact hnull hfields
      · rw [List.forall_mem_singleton, hdevice] at hfields
        exact htext address hfields
    | address htag' hneeds haddress =>
      cases htag'.symm.trans htag
      obtain ⟨address, rfl⟩ := hform.fields_address hneeds
      rw [List.forall_mem_singleton] at hfields
      exact haddress address (Datum.eq_some_of_getD hfields (by simp))
    | generation htag' hneeds hgeneration =>
      cases htag'.symm.trans htag
      obtain ⟨generation, hword, rfl⟩ := hform.fields_timer hneeds
      rw [List.forall_mem_singleton] at hfields
      exact hgeneration generation hword (Datum.eq_some_of_getD hfields (by simp))

theorem malformed_table {entries : List (String × Datum)}
    (h : ∀ tag fields, Form tag fields → ¬ Holds tag fields (.table entries)) :
    Malformed (.table entries) := by
  by_cases hknown : ∃ tag ∈ tags, Datum.find? entries "type" = some (.text tag)
  · obtain ⟨tag, hmem, htag⟩ := hknown
    have hfield {name : String} {written : Datum} (hform : Form tag [(name, written)]) :
        (Datum.find? entries name).getD .null ≠ written := fun heq =>
      h tag _ hform (.table htag (List.forall_mem_singleton.2 heq))
    simp only [tags, List.mem_cons, List.mem_append] at hmem
    rcases hmem with rfl | rfl | hneeds | hneeds
    · cases hfind : Datum.find? entries "device" with
      | none => exact absurd (by rw [hfind]; rfl) (hfield .anyDevice)
      | some device =>
        refine .device htag hfind (fun hnull => ?_) (fun address htext => ?_)
        · exact hfield .anyDevice (by rw [hfind, hnull]; rfl)
        · exact hfield (.device address) (by rw [hfind, htext]; rfl)
    · exact absurd (.table htag (by simp)) (h _ _ .disconnect)
    · exact .address htag hneeds fun address hfind =>
        hfield (.address hneeds address) (by rw [hfind]; rfl)
    · exact .generation htag hneeds fun generation hword hfind =>
        hfield (.generation hneeds hword) (by rw [hfind]; rfl)
  · exact .tag fun tag hmem htag => hknown ⟨tag, hmem, htag⟩

theorem malformed_iff (datum : Datum) :
    Event.Malformed datum ↔ ∀ event : Event, ¬ event.Spelled datum := by
  constructor
  · intro h event
    exact h.not_holds (form_iff.2 ⟨event, rfl, rfl⟩)
  · intro h
    have hform (tag : String) (fields : List (String × Datum)) (hform : Form tag fields) :
        ¬ Holds tag fields datum := by
      obtain ⟨event, rfl, rfl⟩ := form_iff.1 hform
      exact h event
    cases datum with
    | table entries => exact malformed_table hform
    | list items =>
      refine .items fun tag fields hfields heq => hform tag fields hfields ?_
      rw [heq]
      exact .list
    | _ => exact .plain rfl

theorem agree : Agree encode decode? Event.Spelled Event.Canonical Event.Malformed := by
  refine .of decode?_eq_some_iff spelled_encode (fun datum => ?_) malformed_iff
  constructor
  · rintro ⟨tag, fields, hform, rfl⟩
    obtain ⟨event, rfl, rfl⟩ := form_iff.1 hform
    exact ⟨event, rfl⟩
  · rintro ⟨event, rfl⟩
    exact ⟨event.name, event.fields, form_iff.2 ⟨event, rfl, rfl⟩, rfl⟩

end Event

/-- **Encoding and decoding agree.**  For devices, notices, routes and events, whatever their
    addresses and generations: what is written is read back; a datum is read as a value exactly if
    it is a spelling of it, and then the value is written in its canonical form, from which it is
    read again; and a datum is refused exactly if it is malformed.  An event is written, and is
    only read, under the tag that is its name. -/
theorem encoders_decoders_agree :
    Agree Device.encode Device.decode? Device.Spelled Device.Canonical Device.Malformed ∧
    Agree Notice.encode (Notice.decode? .json) Notice.Spelled Notice.Canonical
      Notice.Malformed ∧
    Agree Route.encode (Route.decode? .json) Route.Spelled Route.Canonical Route.Malformed ∧
    Agree Event.encode Event.decode? Event.Spelled Event.Canonical Event.Malformed ∧
    ∀ event : Event, Event.tagOf? event.encode = some (.text event.name) ∧
      ∀ datum, Event.decode? datum = some event → Event.tagOf? datum = some (.text event.name) :=
  ⟨Device.agree, Notice.agree, Route.agree, Event.agree, fun event =>
    ⟨event.spelled_encode.tagOf?,
      fun datum h => ((Event.decode?_eq_some_iff datum event).1 h).tagOf?⟩⟩

example : Event.decode? (.table [("since", .real "1.5"), ("type", .text "connect_hfp")]) =
    some (.connect none) := rfl

example : Event.decode? (.list [.text "retry_connect", .real "1.0"]) = none := rfl

example : Route.decode? .json (.table [("state", .table [("audio_off", .null)]),
    ("device", .text "A")]) = none := rfl

end CallAudio
