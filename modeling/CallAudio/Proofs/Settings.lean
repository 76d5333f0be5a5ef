/-
  What a configuration is read as, and what becomes of it.

  A configuration may lack any of its fields and either of its tables, and what is missing is
  replaced in two places: a field where its table is read, a table where the configuration is
  read.  What is there has to be what it should be.  The times are milliseconds from the file to
  the printed line; on the way they are spans of time, and the number of retries is clamped.

  * `Datum.IsRecord`, `Datum.field?`: the data that a record is read from, and their fields;
  * `Datum.Says`: what a field says that may be missing;
  * `Config.Spelled`, `Config.Malformed`: the data that spell a configuration, and the data that
    spell none;
  * `TimeoutSettings.Obeyed`: every run keeps to the settings;
  * `Config.settings_reach_timers`: configurations are read as they are spelled, and obeyed.
-/
import CallAudio.Proofs.Output
import CallAudio.Proofs.Retry

namespace CallAudio

/-! ## Records -/

namespace Datum

variable {format : Format} {names : List String} {datum : Datum}

/-- The data that a record with fields of these names is read from.  A date is read as a table
    that has none of the fields. -/
inductive IsRecord (format : Format) (names : List String) : Datum → Prop
  | table (entries : List (String × Datum)) : IsRecord format names (.table entries)
  | moment (literal : String) : IsRecord format names (.moment literal)
  | list {items : List Datum} (h : items.length ≤ names.length ∨ format.ignoresSurplus = true) :
      IsRecord format names (.list items)

/-- The field of a given name: an entry of a table, or the item of a list that stands where the
    name stands among `names`. -/
def field? (names : List String) (name : String) : Datum → Option Datum
  | table entries => find? entries name
  | list items => items[names.idxOf name]?
  | _ => none

/-- A record of which no field is given. -/
structure Vacant (format : Format) (names : List String) (datum : Datum) : Prop where
  record : datum.IsRecord format names
  fields : ∀ name ∈ names, datum.field? names name = none

theorem map_idxOf_eq_range (hnames : names.Nodup) :
    names.map names.idxOf = List.range names.length := by
  refine List.ext_getElem (by simp) fun index hindex _ => ?_
  rw [List.getElem_map, List.getElem_range, hnames.idxOf_getElem]

theorem isRecord_list_iff {items : List Datum} : IsRecord format names (.list items) ↔
    items.length ≤ names.length ∨ format.ignoresSurplus = true := by
  constructor
  · rintro ⟨⟩
    assumption
  · exact .list

instance (format : Format) (names : List String) : (datum : Datum) →
    Decidable (datum.IsRecord format names)
  | table entries => .isTrue (.table entries)
  | moment literal => .isTrue (.moment literal)
  | list _ => decidable_of_iff' _ isRecord_list_iff
  | null | bool _ | integer _ | real _ | text _ => .isFalse nofun

theorem record?_eq (format : Format) (hnames : names.Nodup) (datum : Datum) :
    datum.record? format names =
      if datum.IsRecord format names then some (names.map fun name => datum.field? names name)
      else none := by
  cases datum with
  | table entries => exact (if_pos (.table entries)).symm
  | moment literal => exact (if_pos (.moment literal)).symm
  | list items =>
    have hitems : (List.range names.length).map (items[·]?) =
        names.map fun name => items[names.idxOf name]? := by
      rw [← map_idxOf_eq_range hnames, List.map_map]
      rfl
    simp only [record?, isRecord_list_iff, Bool.or_eq_true, decide_eq_true_eq, hitems, field?]
  | _ => rfl

/-! ## Fields that may be missing -/

variable {α : Type} {spelled : α → Datum → Prop} {read : Datum → Option α} {fallback value : α}
  {field : Option Datum}

/-- What a field says that may be missing: `fallback` then, and else what it spells. -/
inductive Says (spelled : α → Datum → Prop) (fallback : α) : Option Datum → α → Prop
  | missing : Says spelled fallback none fallback
  | given {datum : Datum} {value : α} (h : spelled value datum) :
      Says spelled fallback (some datum) value

theorem Says.holds {p : α → Prop} (h : Says spelled fallback field value)
    (hfallback : p fallback) (hspelled : ∀ {value datum}, spelled value datum → p value) :
    p value := by
  cases h with
  | missing => exact hfallback
  | given h => exact hspelled h

theorem orElse_eq_some_iff (hread : ∀ datum value, read datum = some value ↔ spelled value datum) :
    orElse fallback read field = some value ↔ Says spelled fallback field value := by
  cases field with
  | none =>
    constructor
    · rintro ⟨⟩
      exact .missing
    · rintro ⟨⟩
      rfl
  | some datum =>
    constructor
    · intro h
      exact .given ((hread datum value).1 h)
    · rintro ⟨⟩
      next h => exact (hread datum value).2 h

theorem orElse_eq_none_iff :
    orElse fallback read field = none ↔ ∃ given, field = some given ∧ read given = none := by
  cases field with
  | none => simp [orElse]
  | some datum => simp [orElse]

theorem bool?_eq_some_iff {truth : Bool} : datum.bool? = some truth ↔ datum = .bool truth := by
  cases datum <;> simp [bool?]

theorem text?_eq_none_iff : datum.text? = none ↔ ∀ content, datum ≠ .text content := by
  simp only [Option.eq_none_iff_forall_ne_some, ne_eq, text?_eq_some_iff]

theorem bool?_eq_none_iff : datum.bool? = none ↔ ∀ truth, datum ≠ .bool truth := by
  simp only [Option.eq_none_iff_forall_ne_some, ne_eq, bool?_eq_some_iff]

theorem natBelow?_eq_none_iff {bound : Nat} :
    datum.natBelow? bound = none ↔ ∀ n < bound, datum ≠ .integer n := by
  simp only [Option.eq_none_iff_forall_ne_some, ne_eq, natBelow?_eq_some_iff]
  exact forall_congr' fun n => ⟨fun h hlt heq => h ⟨heq, hlt⟩, fun h hboth => h hboth.2 hboth.1⟩

end Datum

section

variable {α β : Type} {value? : Option α} {next : α → Option β}

/-- What comes next fails under a condition that does not depend on the value. -/
theorem bind_eq_none_iff_or {p : Prop} (h : ∀ value, next value = none ↔ p) :
    value?.bind next = none ↔ value? = none ∨ p := by
  cases value? with
  | none => simp
  | some value => simpa using h value

theorem bind_eq_none_iff (h : ∀ value, next value ≠ none) :
    value?.bind next = none ↔ value? = none := by
  rw [bind_eq_none_iff_or fun value => iff_false_intro (h value), or_false]

end

/-! ## Tables -/

namespace LogSettings

variable {format : Format} {datum : Datum} {settings : LogSettings}

def names : List String := ["level", "json"]

/-- The data that spell log settings. -/
structure Spelled (format : Format) (settings : LogSettings) (datum : Datum) : Prop where
  record : datum.IsRecord format names
  level : Datum.Says (fun level given => given = .text level) "info"
    (datum.field? names "level") settings.level
  json : Datum.Says (fun json given => given = .bool json) false
    (datum.field? names "json") settings.json

/-- The data that spell none: a field that is given is not what it should be. -/
inductive Malformed (format : Format) (datum : Datum) : Prop
  | record (h : ¬ datum.IsRecord format names)
  | level {given : Datum} (hgiven : datum.field? names "level" = some given)
      (h : ∀ level, given ≠ .text level)
  | json {given : Datum} (hgiven : datum.field? names "json" = some given)
      (h : ∀ json, given ≠ .bool json)

theorem decode?_eq (format : Format) (datum : Datum) :
    decode? format datum =
      if datum.IsRecord format names then
        (Datum.orElse "info" Datum.text? (datum.field? names "level")).bind fun level =>
        (Datum.orElse false Datum.bool? (datum.field? names "json")).bind fun json =>
        some { level, json }
      else none := by
  rw [decode?, ← names, Datum.record?_eq format (by decide)]
  split_ifs <;> rfl

theorem decode?_eq_some_iff : decode? format datum = some settings ↔
    settings.Spelled format datum := by
  simp only [decode?_eq, Option.ite_none_right_eq_some, Option.bind_eq_some_iff, Option.some.injEq,
    Datum.orElse_eq_some_iff (fun _ _ => Datum.text?_eq_some_iff),
    Datum.orElse_eq_some_iff (fun _ _ => Datum.bool?_eq_some_iff)]
  constructor
  · rintro ⟨hrecord, level, hlevel, json, hjson, rfl⟩
    exact ⟨hrecord, hlevel, hjson⟩
  · rintro ⟨hrecord, hlevel, hjson⟩
    exact ⟨hrecord, _, hlevel, _, hjson, rfl⟩

theorem decode?_eq_none_iff : decode? format datum = none ↔ Malformed format datum := by
  rw [decode?_eq]
  split_ifs with hrecord
  · refine (bind_eq_none_iff_or fun level => bind_eq_none_iff fun json =>
      Option.some_ne_none _).trans ?_
    simp only [Datum.orElse_eq_none_iff, Datum.text?_eq_none_iff, Datum.bool?_eq_none_iff]
    constructor
    · rintro (⟨given, hgiven, h⟩ | ⟨given, hgiven, h⟩)
      · exact .level hgiven h
      · exact .json hgiven h
    · rintro (h | ⟨hgiven, h⟩ | ⟨hgiven, h⟩)
      · exact absurd hrecord h
      · exact .inl ⟨_, hgiven, h⟩
      · exact .inr ⟨_, hgiven, h⟩
  · exact ⟨fun _ => .record hrecord, fun _ => rfl⟩

theorem spelled_of_vacant (h : datum.Vacant format names) : Spelled format {} datum := by
  have hlevel := h.fields "level" (by decide)
  have hjson := h.fields "json" (by decide)
  exact ⟨h.record, hlevel ▸ .missing, hjson ▸ .missing⟩

end LogSettings

namespace TimeoutSettings

variable {format : Format} {datum : Datum} {settings : TimeoutSettings}

def names : List String := ["pending_timeout_ms", "retry_backoff_ms", "max_connect_retries"]

/-- The bounds of the fields. -/
def bounds : List (String × Nat) :=
  [("pending_timeout_ms", wordBound), ("retry_backoff_ms", wordBound),
    ("max_connect_retries", halfWordBound)]

/-- The data that spell timing parameters. -/
structure Spelled (format : Format) (settings : TimeoutSettings) (datum : Datum) : Prop where
  record : datum.IsRecord format names
  pendingMs : Datum.Says (fun (ms : Nat) given => given = .integer ms ∧ ms < wordBound) 5000
    (datum.field? names "pending_timeout_ms") settings.pendingMs
  backoffMs : Datum.Says (fun (ms : Nat) given => given = .integer ms ∧ ms < wordBound) 500
    (datum.field? names "retry_backoff_ms") settings.backoffMs
  retries : Datum.Says (fun (count : Nat) given => given = .integer count ∧ count < halfWordBound) 0
    (datum.field? names "max_connect_retries") settings.retries

/-- The data that spell none: a field that is given is not a number within its bound. -/
inductive Malformed (format : Format) (datum : Datum) : Prop
  | record (h : ¬ datum.IsRecord format names)
  | field {name : String} {bound : Nat} (hbound : (name, bound) ∈ bounds) {given : Datum}
      (hgiven : datum.field? names name = some given) (h : ∀ n < bound, given ≠ .integer n)

theorem decode?_eq (format : Format) (datum : Datum) :
    decode? format datum =
      if datum.IsRecord format names then
        (Datum.orElse 5000 (Datum.natBelow? wordBound)
          (datum.field? names "pending_timeout_ms")).bind fun pendingMs =>
        (Datum.orElse 500 (Datum.natBelow? wordBound)
          (datum.field? names "retry_backoff_ms")).bind fun backoffMs =>
        (Datum.orElse 0 (Datum.natBelow? halfWordBound)
          (datum.field? names "max_connect_retries")).bind fun retries =>
        some { pendingMs, backoffMs, retries }
      else none := by
  rw [decode?, ← names, Datum.record?_eq format (by decide)]
  split_ifs <;> rfl

theorem decode?_eq_some_iff : decode? format datum = some settings ↔
    settings.Spelled format datum := by
  simp only [decode?_eq, Option.ite_none_right_eq_some, Option.bind_eq_some_iff, Option.some.injEq,
    Datum.orElse_eq_some_iff (fun _ _ => Datum.natBelow?_eq_some_iff)]
  constructor
  · rintro ⟨hrecord, pendingMs, hpending, backoffMs, hbackoff, retries, hretries, rfl⟩
    exact ⟨hrecord, hpending, hbackoff, hretries⟩
  · rintro ⟨hrecord, hpending, hbackoff, hretries⟩
    exact ⟨hrecord, _, hpending, _, hbackoff, _, hretries, rfl⟩

theorem decode?_eq_none_iff : decode? format datum = none ↔ Malformed format datum := by
  rw [decode?_eq]
  split_ifs with hrecord
  · refine (bind_eq_none_iff_or fun pendingMs => bind_eq_none_iff_or fun backoffMs =>
      bind_eq_none_iff fun retries => Option.some_ne_none _).trans ?_
    simp only [Datum.orElse_eq_none_iff, Datum.natBelow?_eq_none_iff]
    constructor
    · rintro (⟨given, hgiven, h⟩ | ⟨given, hgiven, h⟩ | ⟨given, hgiven, h⟩)
      · exact .field (.head _) hgiven h
      · exact .field (.tail _ (.head _)) hgiven h
      · exact .field (.tail _ (.tail _ (.head _))) hgiven h
    · rintro (h | ⟨hbound, hgiven, h⟩)
      · exact absurd hrecord h
      · simp only [bounds, List.mem_cons, Prod.mk.injEq, List.not_mem_nil, or_false] at hbound
        rcases hbound with ⟨rfl, rfl⟩ | ⟨rfl, rfl⟩ | ⟨rfl, rfl⟩
        · exact .inl ⟨_, hgiven, h⟩
        · exact .inr (.inl ⟨_, hgiven, h⟩)
        · exact .inr (.inr ⟨_, hgiven, h⟩)
  · exact ⟨fun _ => .record hrecord, fun _ => rfl⟩

theorem spelled_of_vacant (h : datum.Vacant format names) : Spelled format {} datum := by
  have hpending := h.fields "pending_timeout_ms" (by decide)
  have hbackoff := h.fields "retry_backoff_ms" (by decide)
  have hretries := h.fields "max_connect_retries" (by decide)
  exact ⟨h.record, hpending ▸ .missing, hbackoff ▸ .missing, hretries ▸ .missing⟩

end TimeoutSettings

namespace Config

variable {format : Format} {datum : Datum} {config : Config}

def names : List String := ["logging", "timeouts"]

/-- The data that spell a configuration. -/
structure Spelled (format : Format) (config : Config) (datum : Datum) : Prop where
  record : datum.IsRecord format names
  logging : Datum.Says (LogSettings.Spelled format) {}
    (datum.field? names "logging") config.logging
  timeouts : Datum.Says (TimeoutSettings.Spelled format) {}
    (datum.field? names "timeouts") config.timeouts

/-- The data that spell none: a table that is given is malformed. -/
inductive Malformed (format : Format) (datum : Datum) : Prop
  | record (h : ¬ datum.IsRecord format names)
  | logging {given : Datum} (hgiven : datum.field? names "logging" = some given)
      (h : LogSettings.Malformed format given)
  | timeouts {given : Datum} (hgiven : datum.field? names "timeouts" = some given)
      (h : TimeoutSettings.Malformed format given)

/-- A configuration of which no field is given, whether its tables are or not. -/
structure Blank (format : Format) (datum : Datum) : Prop where
  record : datum.IsRecord format names
  logging : ∀ given, datum.field? names "logging" = some given →
    given.Vacant format LogSettings.names
  timeouts : ∀ given, datum.field? names "timeouts" = some given →
    given.Vacant format TimeoutSettings.names

theorem decode?_eq (format : Format) (datum : Datum) :
    decode? format datum =
      if datum.IsRecord format names then
        (Datum.orElse {} (LogSettings.decode? format) (datum.field? names "logging")).bind
          fun logging =>
        (Datum.orElse {} (TimeoutSettings.decode? format) (datum.field? names "timeouts")).bind
          fun timeouts =>
        some { logging, timeouts }
      else none := by
  rw [decode?, ← names, Datum.record?_eq format (by decide)]
  split_ifs <;> rfl

theorem decode?_eq_some_iff : decode? format datum = some config ↔
    config.Spelled format datum := by
  simp only [decode?_eq, Option.ite_none_right_eq_some, Option.bind_eq_some_iff, Option.some.injEq,
    Datum.orElse_eq_some_iff (fun _ _ => LogSettings.decode?_eq_some_iff),
    Datum.orElse_eq_some_iff (fun _ _ => TimeoutSettings.decode?_eq_some_iff)]
  constructor
  · rintro ⟨hrecord, logging, hlogging, timeouts, htimeouts, rfl⟩
    exact ⟨hrecord, hlogging, htimeouts⟩
  · rintro ⟨hrecord, hlogging, htimeouts⟩
    exact ⟨hrecord, _, hlogging, _, htimeouts, rfl⟩

theorem decode?_eq_none_iff : decode? format datum = none ↔ Malformed format datum := by
  rw [decode?_eq]
  split_ifs with hrecord
  · refine (bind_eq_none_iff_or fun logging => bind_eq_none_iff fun timeouts =>
      Option.some_ne_none _).trans ?_
    simp only [Datum.orElse_eq_none_iff, LogSettings.decode?_eq_none_iff,
      TimeoutSettings.decode?_eq_none_iff]
    constructor
    · rintro (⟨given, hgiven, h⟩ | ⟨given, hgiven, h⟩)
      · exact .logging hgiven h
      · exact .timeouts hgiven h
    · rintro (h | ⟨hgiven, h⟩ | ⟨hgiven, h⟩)
      · exact absurd hrecord h
      · exact .inl ⟨_, hgiven, h⟩
      · exact .inr ⟨_, hgiven, h⟩
  · exact ⟨fun _ => .record hrecord, fun _ => rfl⟩

theorem spelled_of_blank (h : Blank format datum) : Spelled format {} datum := by
  refine ⟨h.record, ?_, ?_⟩
  · cases hlogging : datum.field? names "logging" with
    | none => exact .missing
    | some given => exact .given (LogSettings.spelled_of_vacant (h.logging given hlogging))
  · cases htimeouts : datum.field? names "timeouts" with
    | none => exact .missing
    | some given => exact .given (TimeoutSettings.spelled_of_vacant (h.timeouts given htimeouts))

/-! ## Files -/

theorem ofToml?_empty : ofToml? "" = some {} := by decide +kernel

theorem ofToml?_eq_some_iff {text : String} : ofToml? text = some config ↔
    ∃ document, Datum.ofToml? text = some document ∧ decode? .toml document = some config :=
  Option.bind_eq_some_iff

theorem load_text {text path : String} (h : Datum.ofToml? text = some datum) :
    load path (.text text) =
      (decode? .toml datum).elim (.error (.configMalformed path)) .ok := by
  have hread : ofToml? text = decode? .toml datum := by rw [ofToml?, h]; rfl
  rw [load, hread]
  cases decode? .toml datum <;> rfl

theorem load_text_eq_ok_iff {text path : String} (h : Datum.ofToml? text = some datum) :
    load path (.text text) = .ok config ↔ config.Spelled .toml datum := by
  rw [load_text h, ← decode?_eq_some_iff]
  cases decode? .toml datum <;> simp

theorem load_text_eq_error_iff {text path : String} (h : Datum.ofToml? text = some datum) :
    load path (.text text) = .error (.configMalformed path) ↔ Malformed .toml datum := by
  rw [load_text h, ← decode?_eq_none_iff]
  cases decode? .toml datum <;> simp

end Config

/-! ## Timers -/

theorem Router.mem_armed {router : Router} {inputs : List Input} {transition : Transition}
    (hmem : transition ∈ router.transitions inputs) {request : TimerRequest}
    (htimer : transition.timer = .arm request) : request ∈ router.armed inputs := by
  obtain ⟨moment, hmoment, htransition⟩ := List.mem_filterMap.1 hmem
  refine List.mem_filterMap.2 ⟨moment, hmoment, ?_⟩
  obtain ⟨before, input⟩ := moment
  cases input with
  | event world event =>
    cases htransition
    exact congrArg TimerAction.armed? htimer
  | force directory route => cases htransition
  | listen listener => cases htransition

namespace TimeoutSettings

variable {settings : TimeoutSettings} {inputs : List Input} {request : TimerRequest}

/-- The milliseconds that a timer of a kind is to wait. -/
def ms (settings : TimeoutSettings) : TimerKind → Nat
  | .confirmation => settings.pendingMs
  | .retry => settings.backoffMs

/-- What is printed of a timer. -/
def printed (settings : TimeoutSettings) (request : TimerRequest) : List (String × Datum) :=
  [("kind", .text request.kind.name), ("generation", .integer request.generation.toNat),
    ("delay", .integer (settings.ms request.kind))]

/-- The numbers fit the fields that they are read from. -/
structure InRange (settings : TimeoutSettings) : Prop where
  pendingMs : settings.pendingMs < wordBound
  backoffMs : settings.backoffMs < wordBound
  retries : settings.retries < halfWordBound

/-- Every run keeps to the settings. -/
structure Obeyed (settings : TimeoutSettings) : Prop where
  /-- Every timer waits as long as its kind is to wait, and is printed so. -/
  armed : ∀ inputs, ∀ request ∈ (Router.new settings.timeouts).armed inputs,
    request.delay = .ofMillis (settings.ms request.kind) ∧
      request.fields = settings.printed request
  /-- So it is on the line of the transition that arms it. -/
  line : ∀ inputs, ∀ transition ∈ (Router.new settings.timeouts).transitions inputs,
    ∀ request, transition.timer = .arm request →
      ∃ entries, Datum.ofJson? (CommandLine.line transition) = some (.table entries) ∧
        Datum.find? entries "timer" =
          some (.table (("action", .text "arm") :: settings.printed request))
  /-- There are timers for retries only if there are to be retries. -/
  retried : ∀ inputs, ∀ request ∈ (Router.new settings.timeouts).armed inputs,
    request.kind = .retry → 1 ≤ settings.retries
  /-- How many there are to be does not matter then. -/
  clamped : 1 ≤ settings.retries →
    let single : TimeoutSettings := { settings with retries := 1 }
    settings.timeouts = single.timeouts ∧ ∀ inputs,
      (Router.new settings.timeouts).moments inputs = (Router.new single.timeouts).moments inputs

theorem delay_timeouts (settings : TimeoutSettings) (kind : TimerKind) :
    settings.timeouts.delay kind = .ofMillis (settings.ms kind) := by
  cases kind <;> rfl

theorem InRange.ms_le (h : settings.InRange) (kind : TimerKind) :
    settings.ms kind ≤ Duration.maxPrintedMillis := by
  cases kind with
  | confirmation => exact Nat.le_pred_of_lt h.pendingMs
  | retry => exact Nat.le_pred_of_lt h.backoffMs

theorem delay_of_armed (hmem : request ∈ (Router.new settings.timeouts).armed inputs) :
    request.delay = .ofMillis (settings.ms request.kind) := by
  rw [(Router.accounted_run settings.timeouts inputs).delays request hmem, delay_timeouts]

theorem InRange.fields_of_armed (h : settings.InRange)
    (hmem : request ∈ (Router.new settings.timeouts).armed inputs) :
    request.fields = settings.printed request := by
  rw [TimerRequest.fields, delay_of_armed hmem,
    Duration.wholeMillis_ofMillis (h.ms_le request.kind), printed]

theorem one_le_of_armed (hmem : request ∈ (Router.new settings.timeouts).armed inputs)
    (hkind : request.kind = .retry) : 1 ≤ settings.retries := by
  by_contra hnone
  have hretries : settings.timeouts.retries = 0 := by
    have hzero : settings.retries = 0 := by omega
    simp [timeouts, Timeouts.of, hzero]
  have hconfirmation := Router.kind_of_armed hretries inputs request hmem
  rw [hkind] at hconfirmation
  cases hconfirmation

theorem timeouts_eq_single (h : 1 ≤ settings.retries) :
    settings.timeouts = ({ settings with retries := 1 } : TimeoutSettings).timeouts := by
  have hmin : min settings.retries Timeouts.maxRetries = min 1 Timeouts.maxRetries := by
    simp only [Timeouts.maxRetries]
    omega
  simp only [timeouts, Timeouts.of, hmin]

/-- **Every run keeps to settings within their ranges.** -/
theorem InRange.obeyed (h : settings.InRange) : settings.Obeyed where
  armed _ _ hmem := ⟨delay_of_armed hmem, h.fields_of_armed hmem⟩
  line inputs transition hmem request htimer := by
    refine ⟨_, Datum.ofJson?_toJson transition.plain_encode, ?_⟩
    have hprinted := h.fields_of_armed (Router.mem_armed hmem htimer)
    show some transition.timer.encode = _
    rw [htimer, TimerAction.encode, hprinted]
  retried _ _ hmem hkind := one_le_of_armed hmem hkind
  clamped hretries := by
    have hsame := timeouts_eq_single hretries
    exact ⟨hsame, fun inputs => by rw [hsame]⟩

theorem inRange_default : InRange {} := by
  constructor <;> decide

theorem Spelled.inRange {format : Format} {datum : Datum} (h : settings.Spelled format datum) :
    settings.InRange :=
  ⟨h.pendingMs.holds (by decide) (·.2), h.backoffMs.holds (by decide) (·.2),
    h.retries.holds (by decide) (·.2)⟩

end TimeoutSettings

namespace Config

variable {format : Format} {datum : Datum} {config : Config}

theorem Spelled.inRange (h : config.Spelled format datum) : config.timeouts.InRange :=
  h.timeouts.holds TimeoutSettings.inRange_default (·.inRange)

/-- **Settings reach the timers as they are spelled.**  Data is read as a configuration exactly if
    it spells that configuration, each field that is given as itself and each that is not as its
    default, and is refused exactly if it is malformed.  The default configuration is what a file
    that is missing or empty stands for, and data without any of the fields.  The settings are
    within their ranges, and every run of a machine keeps to all settings within them. -/
theorem settings_reach_timers (format : Format) (datum : Datum) :
    (∀ config, decode? format datum = some config ↔ config.Spelled format datum) ∧
    (decode? format datum = none ↔ Malformed format datum) ∧
    (Blank format datum → decode? format datum = some {}) ∧
    (∀ path, load path .missing = .ok {} ∧ load path (.text "") = .ok {} ∧
      ∀ text, Datum.ofToml? text = some datum →
        (∀ config : Config,
          load path (.text text) = .ok config ↔ config.Spelled .toml datum) ∧
        (load path (.text text) = .error (.configMalformed path) ↔ Malformed .toml datum)) ∧
    (∀ config : Config, config.Spelled format datum → config.timeouts.InRange) ∧
    (∀ settings : TimeoutSettings, settings.InRange → settings.Obeyed) ∧
    ({} : TimeoutSettings).timeouts = .default := by
  refine ⟨fun config => decode?_eq_some_iff, decode?_eq_none_iff,
    fun h => decode?_eq_some_iff.2 (spelled_of_blank h), fun path => ⟨rfl, ?_, fun text h => ?_⟩,
    fun config h => h.inRange, fun settings h => h.obeyed, rfl⟩
  · rw [load, ofToml?_empty]
  · exact ⟨fun config => load_text_eq_ok_iff h, load_text_eq_error_iff h⟩

/-- The longest time to confirm, and one that is too long; a date where a table should be, and a
    file that gives one field. -/
theorem settings_reach_timers_widest :
    let world := (Stack.ofDevices [⟨"A"⟩]).surroundings
    let widest : Datum := .table [("timeouts", .table [("max_connect_retries", .integer 3),
      ("pending_timeout_ms", .integer 18446744073709551615), ("attempts", .null)])]
    let tooWide : Datum :=
      .table [("timeouts", .table [("pending_timeout_ms", .integer 18446744073709551616)])]
    let dated : Datum := .table [("logging", .moment "1979-05-27")]
    let config : Config :=
      { timeouts := { pendingMs := 18446744073709551615, retries := 3 } }
    decode? .json widest = some config ∧
    ((Router.new config.timeouts.timeouts).armed [.event world (.connect none)]).map (·.fields) =
      [[("kind", .text "connection_timeout"), ("generation", .integer 1),
        ("delay", .integer 18446744073709551615)]] ∧
    decode? .json tooWide = none ∧
    decode? .toml dated = some {} ∧
    load "config.toml" (.text "[timeouts]\nretry_backoff_ms = 7\n") =
      .ok { timeouts := { backoffMs := 7 } } := by
  intro world widest tooWide dated config
  obtain ⟨hread, -, -, -, hrange, hobeyed, -⟩ := settings_reach_timers .json widest
  obtain ⟨-, hrefused, -⟩ := settings_reach_timers .json tooWide
  obtain ⟨-, -, hblank, -⟩ := settings_reach_timers .toml dated
  have hwidest : config.Spelled .json widest :=
    ⟨.table _, .missing, .given ⟨.table _, .given ⟨rfl, by decide⟩, .missing,
      .given ⟨rfl, by decide⟩⟩⟩
  have htooWide : Malformed .json tooWide := by
    refine .timeouts rfl (.field (.head _) rfl fun n hn heq => ?_)
    have hnumber : (wordBound : Int) = n := Datum.integer.inj heq
    exact hn.ne (Int.ofNat.inj hnumber).symm
  have hdated : Blank .toml dated := by
    refine ⟨.table _, fun given hgiven => ?_, nofun⟩
    cases hgiven
    exact ⟨.moment _, fun _ _ => rfl⟩
  have hone : (Router.new config.timeouts.timeouts).armed [.event world (.connect none)] =
      [⟨.confirmation, 1, .ofMillis 18446744073709551615⟩] := by
    decide
  refine ⟨(hread config).2 hwidest, ?_, hrefused.2 htooWide, hblank hdated, ?_⟩
  · have hfields := ((hobeyed _ (hrange config hwidest)).armed [.event world (.connect none)] _
      (by rw [hone]; exact .head _)).2
    rw [hone, List.map_singleton, hfields]
    rfl
  · have hparsed : ofToml? "[timeouts]\nretry_backoff_ms = 7\n" =
        some { timeouts := { backoffMs := 7 } } := by
      decide +kernel
    obtain ⟨document, hdocument, hdecoded⟩ := ofToml?_eq_some_iff.1 hparsed
    obtain ⟨hspelled, -, -, hload, -⟩ := settings_reach_timers .toml document
    obtain ⟨-, -, htext⟩ := hload "config.toml"
    exact ((htext _ hdocument).1 _).2 ((hspelled _).1 hdecoded)

/-- What is given for a table need not be one: a date is not, and is not refused. -/
theorem settings_date_for_table :
    load "config.toml" (.text "logging = 1979-05-27") = .ok {} ∧
    ¬ ∀ entries given, Datum.find? entries "logging" = some given →
      (∀ fields, given ≠ .table fields) → (∀ items, given ≠ .list items) →
        decode? .toml (.table entries) = none := by
  refine ⟨by decide +kernel, fun hclaim => ?_⟩
  have hread : decode? .toml (.table [("logging", .moment "1979-05-27")]) = some {} := rfl
  have hrefused := hclaim [("logging", .moment "1979-05-27")] _ rfl nofun nofun
  rw [hread] at hrefused
  cases hrefused

end Config

end CallAudio
