/-
  What the replay tool prints.

  A line has to tell one transition from any other although a fault is only a text there, and
  although an address may be any text at all.  The texts of the kinds of faults begin differently,
  and so do the names of the kinds of routes, so that an address is found between a known
  beginning and a known end.  All else is tagged, and is read back from the line.

  * `PrefixFree`: texts none of which another one begins with;
  * `Fault.message_injective`, `Route.name_injective`: texts tell faults and routes apart;
  * `Transition.PrintedAs`: transitions of which a report shows the same;
  * `CommandLine.Fails`, `CommandLine.Ready`: what keeps the tool from its replay, and what it
    replays if nothing does;
  * `CommandLine.unambiguous_output`: all transitions or nothing are printed, on a line each, and
    a line tells its transition.
-/
import CallAudio.Proofs.Reading
import CallAudio.Proofs.Replay
import CallAudio.Proofs.Spelling
import CallAudio.Tool.CommandLine

namespace CallAudio

/-! ## Texts with addresses in them -/

/-- No text is the beginning of another one. -/
def PrefixFree (texts : List String) : Prop :=
  ∀ text ∈ texts, ∀ other ∈ texts, text.toList <+: other.toList → text = other

instance (texts : List String) : Decidable (PrefixFree texts) := List.decidableBAll ..

theorem PrefixFree.append_inj {texts : List String} (h : PrefixFree texts)
    {text other rest more : String} (htext : text ∈ texts) (hother : other ∈ texts)
    (heq : text ++ rest = other ++ more) : text = other ∧ rest = more := by
  have hchars : text.toList ++ rest.toList = other.toList ++ more.toList := by
    rw [← String.toList_append, ← String.toList_append, heq]
  have hprefix : text.toList <+: other.toList ++ more.toList := hchars ▸ List.prefix_append _ _
  have hsame : text = other := by
    rcases List.prefix_or_prefix_of_prefix hprefix (List.prefix_append _ _) with hle | hle
    · exact h text htext other hother hle
    · exact (h other hother text htext hle).symm
  subst hsame
  exact ⟨rfl, (String.append_right_inj _).1 heq⟩

namespace Fault

/-- What stands in front of the address. -/
def opening : Fault → String
  | commandRejected _ => "Headset rejected audio connection to "
  | confirmationTimeout _ => "Audio on "
  | inconsistentReport _ => "Native stack reported audio for "
  | unknownDevice _ => "Device not connected: "

/-- What stands behind it. -/
def ending : Fault → String
  | commandRejected _ | unknownDevice _ => ""
  | confirmationTimeout _ => " was not confirmed in time"
  | inconsistentReport _ => ", which is not in the device directory"

/-- The beginnings of all texts. -/
def openings : List String :=
  [commandRejected, confirmationTimeout, inconsistentReport, unknownDevice].map fun fault =>
    opening (fault ⟨""⟩)

theorem prefixFree_openings : PrefixFree openings := by decide +kernel

theorem opening_mem (fault : Fault) : fault.opening ∈ openings := by
  cases fault <;> simp [openings, opening]

theorem message_eq (fault : Fault) :
    fault.message = fault.opening ++ (fault.device.address ++ fault.ending) := by
  cases fault with
  | commandRejected device | unknownDevice device =>
    exact congrArg (String.append _) String.append_empty.symm
  | confirmationTimeout device | inconsistentReport device => exact String.append_assoc

theorem eq_of_opening {fault other : Fault} (h : fault.opening = other.opening) :
    fault.ending = other.ending ∧ (fault.device = other.device → fault = other) := by
  cases fault with
  | commandRejected device =>
    cases other with
    | commandRejected => exact ⟨rfl, congrArg commandRejected⟩
    | _ => simp [opening] at h
  | confirmationTimeout device =>
    cases other with
    | confirmationTimeout => exact ⟨rfl, congrArg confirmationTimeout⟩
    | _ => simp [opening] at h
  | inconsistentReport device =>
    cases other with
    | inconsistentReport => exact ⟨rfl, congrArg inconsistentReport⟩
    | _ => simp [opening] at h
  | unknownDevice device =>
    cases other with
    | unknownDevice => exact ⟨rfl, congrArg unknownDevice⟩
    | _ => simp [opening] at h

/-- **The text of a fault tells its kind and its device.** -/
theorem message_injective : Function.Injective message := by
  intro fault other h
  rw [message_eq, message_eq] at h
  obtain ⟨hopening, hrest⟩ := prefixFree_openings.append_inj fault.opening_mem other.opening_mem h
  obtain ⟨hending, heq⟩ := eq_of_opening hopening
  rw [hending] at hrest
  exact heq (congrArg Device.mk ((String.append_left_inj _).1 hrest))

end Fault

namespace Route

/-- A route's name without the address. -/
def stem : Route → String
  | off => "AudioOff"
  | connecting _ => "AudioConnecting:"
  | connected _ => "AudioConnected:"

/-- The names of all kinds of routes. -/
def stems : List String := [stem off, stem (connecting ⟨""⟩), stem (connected ⟨""⟩)]

theorem prefixFree_stems : PrefixFree stems := by decide +kernel

theorem stem_mem (route : Route) : route.stem ∈ stems := by
  cases route <;> simp [stems, stem]

theorem name_eq (route : Route) :
    route.name = route.stem ++ (route.device?.elim "" (·.address)) := by
  cases route with
  | off => exact String.append_empty.symm
  | connecting device | connected device => rfl

theorem eq_of_stem {route other : Route} (h : route.stem = other.stem)
    (hdevice : route.device?.elim "" (·.address) = other.device?.elim "" (·.address)) :
    route = other := by
  cases route with
  | off =>
    cases other with
    | off => rfl
    | _ => simp [stem] at h
  | connecting device =>
    cases other with
    | connecting other => exact congrArg (connecting ⟨·⟩) hdevice
    | _ => simp [stem] at h
  | connected device =>
    cases other with
    | connected other => exact congrArg (connected ⟨·⟩) hdevice
    | _ => simp [stem] at h

/-- **The name of a route in diagnostics tells the route.** -/
theorem name_injective : Function.Injective name := by
  intro route other h
  rw [name_eq, name_eq] at h
  obtain ⟨hstem, hdevice⟩ := prefixFree_stems.append_inj route.stem_mem other.stem_mem h
  exact eq_of_stem hstem hdevice

theorem encode_injective : Function.Injective encode := by
  intro route other h
  have hread := (decode?_eq_some_iff _ route).2 route.spelled_encode
  rw [h, (decode?_eq_some_iff _ other).2 other.spelled_encode] at hread
  exact (Option.some.inj hread).symm

end Route

/-! ## What a line shows -/

theorem TimerKind.name_injective : Function.Injective TimerKind.name := by
  intro kind other h
  cases kind <;> cases other <;> simp_all [name]

theorem EventKind.name_injective : Function.Injective EventKind.name := by
  intro kind other h
  rcases kind with _ | _ | _ | _ | _ | _ | (_ | _) <;>
    rcases other with _ | _ | _ | _ | _ | _ | (_ | _) <;> simp_all [name, TimerKind.name]

theorem Notice.encode_injective : Function.Injective Notice.encode := by
  intro notice other h
  cases notice <;> cases other <;> simp_all [encode, name]

theorem Command.encode_injective : Function.Injective Command.encode := by
  intro command other h
  rcases command with ⟨⟨address⟩⟩ | _ <;> rcases other with ⟨⟨address⟩⟩ | _ <;>
    simp_all [encode, Device.encode]

theorem encodeOption_inj {α : Type} {encode : α → Datum} (hencode : Function.Injective encode)
    (hnull : ∀ value, encode value ≠ .null) {value? other? : Option α} :
    encodeOption encode value? = encodeOption encode other? ↔ value? = other? := by
  refine ⟨fun h => ?_, congrArg _⟩
  cases value? with
  | none =>
    cases other? with
    | none => rfl
    | some other => exact absurd h.symm (hnull other)
  | some value =>
    cases other? with
    | none => exact absurd h (hnull value)
    | some other => exact congrArg some (hencode h)

/-- Timer actions of which a report shows the same: of a delay it shows the whole milliseconds, as
    far as a 64-bit word holds them. -/
inductive TimerAction.PrintedAs : TimerAction → TimerAction → Prop
  | keep : PrintedAs keep keep
  | cancel : PrintedAs cancel cancel
  | arm {request other : TimerRequest} (hkind : request.kind = other.kind)
      (hgeneration : request.generation = other.generation)
      (hdelay : min (request.delay.nanos / 1000000) (UInt64.size - 1) =
        min (other.delay.nanos / 1000000) (UInt64.size - 1)) :
      PrintedAs (arm request) (arm other)

theorem TimerRequest.fields_inj {request other : TimerRequest} :
    request.fields = other.fields ↔ request.kind = other.kind ∧
      request.generation = other.generation ∧
      request.delay.wholeMillis = other.delay.wholeMillis := by
  simp only [fields, List.cons.injEq, Prod.mk.injEq, Datum.text.injEq, Datum.integer.injEq,
    Int.ofNat_inj, TimerKind.name_injective.eq_iff, UInt64.toNat_inj, true_and, and_true]

theorem TimerAction.encode_inj {action other : TimerAction} :
    action.encode = other.encode ↔ action.PrintedAs other := by
  constructor
  · intro h
    cases action with
    | keep => cases other <;> simp_all [encode, PrintedAs.keep]
    | cancel => cases other <;> simp_all [encode, PrintedAs.cancel]
    | arm request =>
      cases other with
      | keep | cancel => simp [encode] at h
      | arm other =>
        have hfields : request.fields = other.fields := by simpa [encode] using h
        obtain ⟨hkind, hgeneration, hdelay⟩ := TimerRequest.fields_inj.1 hfields
        exact .arm hkind hgeneration hdelay
  · rintro (_ | _ | ⟨hkind, hgeneration, hdelay⟩)
    · rfl
    · rfl
    · exact congrArg (fun fields => Datum.table (_ :: fields))
        (TimerRequest.fields_inj.2 ⟨hkind, hgeneration, hdelay⟩)

/-- Transitions of which a report shows the same. -/
structure Transition.PrintedAs (transition other : Transition) : Prop where
  event : transition.event = other.event
  source : transition.source = other.source
  target : transition.target = other.target
  command : transition.command = other.command
  notices : transition.notices = other.notices
  timer : transition.timer.PrintedAs other.timer
  fault : transition.fault = other.fault

namespace Transition

variable {transition other : Transition}

theorem encode_inj : transition.encode = other.encode ↔ transition.PrintedAs other := by
  have hcommand : encodeOption Command.encode transition.command =
      encodeOption Command.encode other.command ↔ transition.command = other.command :=
    encodeOption_inj Command.encode_injective (fun command => by cases command <;> exact nofun)
  have hnotices : transition.notices.map Notice.encode = other.notices.map Notice.encode ↔
      transition.notices = other.notices :=
    (List.map_injective_iff.2 Notice.encode_injective).eq_iff
  have hfault : encodeOption (fun fault => .text fault.message) transition.fault =
      encodeOption (fun fault => .text fault.message) other.fault ↔
        transition.fault = other.fault :=
    encodeOption_inj (fun _ _ h => Fault.message_injective (Datum.text.inj h)) (fun _ => nofun)
  simp only [encode, Datum.table.injEq, List.cons.injEq, Prod.mk.injEq, Datum.text.injEq,
    Datum.list.injEq, true_and, and_true, EventKind.name_injective.eq_iff,
    Route.encode_injective.eq_iff, hcommand, hnotices, TimerAction.encode_inj, hfault]
  exact ⟨fun ⟨h₁, h₂, h₃, h₄, h₅, h₆, h₇⟩ => ⟨h₁, h₂, h₃, h₄, h₅, h₆, h₇⟩,
    fun ⟨h₁, h₂, h₃, h₄, h₅, h₆, h₇⟩ => ⟨h₁, h₂, h₃, h₄, h₅, h₆, h₇⟩⟩

end Transition

/-! ## Lines -/

theorem plain_encodeOption {α : Type} {encode : α → Datum} (h : ∀ value, (encode value).Plain)
    (value? : Option α) : (encodeOption encode value?).Plain := by
  cases value? with
  | none => exact .null
  | some value => exact h value

theorem Route.plain_encode (route : Route) : route.encode.Plain := by
  have hnames : ["state", "device"].Nodup := by decide
  cases route with
  | off => exact .table (List.nodup_singleton _) (List.forall_mem_singleton.2 (.text _))
  | connecting device | connected device =>
    exact .table hnames
      (List.forall_mem_cons.2 ⟨.text _, List.forall_mem_singleton.2 (.text device.address)⟩)

theorem Command.plain_encode (command : Command) : command.encode.Plain := by
  have hnames : ["command", "address"].Nodup := by decide
  cases command with
  | connectAudio device =>
    exact .table hnames
      (List.forall_mem_cons.2 ⟨.text _, List.forall_mem_singleton.2 (.text device.address)⟩)
  | disconnectAudio =>
    exact .table (List.nodup_singleton _) (List.forall_mem_singleton.2 (.text _))

theorem TimerAction.plain_encode (action : TimerAction) : action.encode.Plain := by
  have hnames : ["action", "kind", "generation", "delay"].Nodup := by decide
  cases action with
  | keep | cancel => exact .table (List.nodup_singleton _) (List.forall_mem_singleton.2 (.text _))
  | arm request =>
    refine .table hnames (List.forall_mem_cons.2 ⟨.text _, ?_⟩)
    rw [TimerRequest.fields]
    simp only [List.forall_mem_cons]
    exact ⟨.text _, .integer _, .integer _, nofun⟩

theorem Transition.plain_encode (transition : Transition) : transition.encode.Plain := by
  have hnames : ["event", "from", "to", "command", "updates", "timer", "fault"].Nodup := by decide
  refine .table hnames ?_
  simp only [List.forall_mem_cons]
  exact ⟨.text _, transition.source.plain_encode, transition.target.plain_encode,
    plain_encodeOption Command.plain_encode _,
    .list (List.forall_mem_map.2 fun notice _ => .text notice.name),
    transition.timer.plain_encode, plain_encodeOption (fun _ => .text _) _, nofun⟩

namespace CommandLine

theorem line_inj {transition other : Transition} :
    line transition = line other ↔ transition.PrintedAs other :=
  (Datum.toJson_inj transition.plain_encode other.plain_encode).trans Transition.encode_inj

theorem newline_not_mem_line (transition : Transition) :
    '\n' ∉ (line transition).toList := by
  intro hmem
  rw [line, Datum.toJson, String.toList_ofList] at hmem
  exact absurd (Json.printable_render transition.plain_encode _ hmem) (by decide)

/-- What is printed falls into its lines at the line breaks; behind the last one nothing is left. -/
theorem splitOn_output {lines : List String} (h : ∀ line ∈ lines, '\n' ∉ line.toList) :
    (output (.ok lines)).toList.splitOn '\n' = lines.map String.toList ++ [[]] := by
  induction lines with
  | nil => rfl
  | cons line lines ih =>
    obtain ⟨hline, hlines⟩ := List.forall_mem_cons.1 h
    have hcons : (output (.ok (line :: lines))).toList =
        line.toList ++ '\n' :: (output (.ok lines)).toList := by
      simp [output, String.toList_join]
    rw [hcons, List.splitOn_append_cons_self, List.splitOn_eq_singleton hline, ih hlines]
    rfl

theorem splitOn_output_lines (transitions : List Transition) :
    (output (.ok (transitions.map line))).toList.splitOn '\n' =
      (transitions.map line).map String.toList ++ [[]] :=
  splitOn_output (List.forall_mem_map.2 fun transition _ => newline_not_mem_line transition)

/-- What is printed tells what is reported. -/
theorem output_inj {transitions others : List Transition} :
    output (.ok (transitions.map line)) = output (.ok (others.map line)) ↔
      List.Forall₂ Transition.PrintedAs transitions others := by
  have hlines : transitions.map line = others.map line ↔
      List.Forall₂ Transition.PrintedAs transitions others := by
    rw [← List.forall₂_eq_eq_eq, List.forall₂_map_left_iff, List.forall₂_map_right_iff]
    simp only [line_inj]
  refine ⟨fun h => hlines.1 ?_, fun h => congrArg _ (congrArg _ (hlines.2 h))⟩
  have hsplit := splitOn_output_lines transitions
  rw [h, splitOn_output_lines others] at hsplit
  have hchars := List.append_cancel_right hsplit
  exact (List.map_injective_iff.2 (fun _ _ => String.toList_inj.1) hchars).symm

/-! ## Failures -/

variable {environment : Environment} {name path : String} {rest arguments : List String}
  {config : Config} {script : Script}

/-- The configuration can be read, and its log filter is accepted. -/
structure Configured (environment : Environment) (rest : List String) (config : Config) :
    Prop where
  loaded : ∃ path, (rest.head? <|> environment.defaultConfig) = some path ∧
    Config.load path (environment.file path) = .ok config
  filtered : ∃ filter, LogFilter.choose environment.logFilter config.logging.level = .ok filter

/-- Nothing keeps the tool from its replay: a script is named and can be read, so can the
    configuration, and the device of the first route, if it has one, is connected. -/
structure Ready (environment : Environment) (arguments : List String) (config : Config)
    (script : Script) : Prop where
  named : ∃ name rest, arguments = name :: rest ∧ Configured environment rest config ∧
    Script.load name (environment.file name) = .ok script
  connected : ∀ device, script.initial.device? = some device → device ∈ script.connected

/-- What keeps the tool from its replay. -/
inductive Fails (environment : Environment) : List String → CommandError → Prop
  | usage : Fails environment [] .usage
  | noConfigDirectory {name : String} (hdefault : environment.defaultConfig = none) :
      Fails environment [name] .noConfigDirectory
  | config {name path : String} {rest : List String} {error : LoadError}
      (hpath : (rest.head? <|> environment.defaultConfig) = some path)
      (hload : Config.load path (environment.file path) = .error error) :
      Fails environment (name :: rest) (.load error)
  | filter {name path : String} {rest : List String} {config : Config} {error : FilterError}
      (hpath : (rest.head? <|> environment.defaultConfig) = some path)
      (hload : Config.load path (environment.file path) = .ok config)
      (hfilter : LogFilter.choose environment.logFilter config.logging.level = .error error) :
      Fails environment (name :: rest) (.filter error)
  | script {name : String} {rest : List String} {config : Config} {error : LoadError}
      (hconfigured : Configured environment rest config)
      (hload : Script.load name (environment.file name) = .error error) :
      Fails environment (name :: rest) (.load error)
  | initial {name : String} {rest : List String} {config : Config} {script : Script}
      {device : Device} (hconfigured : Configured environment rest config)
      (hload : Script.load name (environment.file name) = .ok script)
      (hdevice : script.initial.device? = some device) (hunknown : device ∉ script.connected) :
      Fails environment (name :: rest)
        (.replay (.invalidInitialState (.refused (.unknownDevice device))))

theorem configPath_eq (environment : Environment) (rest : List String) :
    configPath environment rest =
      (rest.head? <|> environment.defaultConfig).elim (.error .noConfigDirectory) .ok := by
  cases rest with
  | nil => rw [configPath.eq_def]; cases environment.defaultConfig <;> rfl
  | cons path rest => rfl

theorem run_cons (environment : Environment) (name : String) (rest : List String) :
    run environment (name :: rest) = (transitions environment name rest).map (·.map line) := by
  rw [run]
  cases transitions environment name rest <;> rfl

theorem transitions_of_path (hpath : (rest.head? <|> environment.defaultConfig) = some path) :
    transitions environment name rest =
      ((Config.load path (environment.file path)).mapError .load).bind fun config =>
      ((LogFilter.choose environment.logFilter config.logging.level).mapError .filter).bind fun _ =>
      ((Script.load name (environment.file name)).mapError .load).bind fun script =>
      (script.run config.timeouts.timeouts).mapError .replay := by
  rw [transitions, configPath_eq, hpath]
  rfl

theorem Configured.transitions_eq (h : Configured environment rest config) :
    transitions environment name rest =
      ((Script.load name (environment.file name)).mapError .load).bind fun script =>
      (script.run config.timeouts.timeouts).mapError .replay := by
  obtain ⟨⟨path, hpath, hload⟩, filter, hfilter⟩ := h
  simp only [transitions_of_path hpath, hload, hfilter, Except.mapError, Except.bind]

/-- What keeps the tool from its replay is its error. -/
theorem Fails.run_eq {error : CommandError} (h : Fails environment arguments error) :
    run environment arguments = .error error := by
  cases h with
  | usage => rfl
  | noConfigDirectory hdefault => rw [run_cons, transitions, configPath_eq, hdefault]; rfl
  | config hpath hload => rw [run_cons, transitions_of_path hpath, hload]; rfl
  | filter hpath hload hfilter =>
    simp only [run_cons, transitions_of_path hpath, hload, hfilter, Except.mapError, Except.bind,
      Except.map]
  | script hconfigured hload => rw [run_cons, hconfigured.transitions_eq, hload]; rfl
  | @initial name rest config script device hconfigured hload hdevice hunknown =>
    obtain ⟨hstart, -⟩ := script.start_refused config.timeouts.timeouts hdevice hunknown
    have hrun : script.run config.timeouts.timeouts =
        .error (.invalidInitialState (.refused (.unknownDevice device))) := by
      rw [Script.run, hstart]
      rfl
    simp only [run_cons, hconfigured.transitions_eq, hload, hrun, Except.mapError, Except.bind,
      Except.map]

/-- If nothing does, the script is replayed, and the transitions are reported. -/
theorem Ready.run_eq (h : Ready environment arguments config script) :
    ∃ transitions, script.run config.timeouts.timeouts = .ok transitions ∧
      run environment arguments = .ok (transitions.map line) := by
  obtain ⟨⟨name, rest, rfl, hconfigured, hload⟩, hconnected⟩ := h
  have hroom : 4 * config.timeouts.timeouts.retries + 3 ≤ Feed.capacity := Timeouts.room_of ..
  obtain ⟨replay, actions, hreplayed, hfollows⟩ :=
    Script.follows_replayed (script.covers_initial hconnected) hroom script.steps
  have hrun := Script.run_of_follows hreplayed hfollows hroom
  refine ⟨_, hrun, ?_⟩
  simp only [run_cons, hconfigured.transitions_eq, hload, hrun, Except.mapError, Except.bind,
    Except.map]

theorem fails_or_configured (environment : Environment) (name : String) (rest : List String) :
    (∃ error, Fails environment (name :: rest) error) ∨
      ∃ config, Configured environment rest config := by
  cases hpath : (rest.head? <|> environment.defaultConfig) with
  | none =>
    cases rest with
    | nil => exact .inl ⟨_, .noConfigDirectory hpath⟩
    | cons path rest => cases hpath
  | some path =>
    cases hload : Config.load path (environment.file path) with
    | error error => exact .inl ⟨_, .config hpath hload⟩
    | ok config =>
      cases hfilter : LogFilter.choose environment.logFilter config.logging.level with
      | error error => exact .inl ⟨_, .filter hpath hload hfilter⟩
      | ok filter => exact .inr ⟨config, ⟨path, hpath, hload⟩, filter, hfilter⟩

/-- There is nothing else that the tool can meet. -/
theorem fails_or_ready (environment : Environment) (arguments : List String) :
    (∃ error, Fails environment arguments error) ∨
      ∃ config script, Ready environment arguments config script := by
  cases arguments with
  | nil => exact .inl ⟨_, .usage⟩
  | cons name rest =>
    rcases fails_or_configured environment name rest with hfails | ⟨config, hconfigured⟩
    · exact .inl hfails
    cases hload : Script.load name (environment.file name) with
    | error error => exact .inl ⟨_, .script hconfigured hload⟩
    | ok script =>
      by_cases hconnected : ∀ device, script.initial.device? = some device →
          device ∈ script.connected
      · exact .inr ⟨config, script, ⟨name, rest, rfl, hconfigured, hload⟩, hconnected⟩
      · simp only [not_forall, exists_prop] at hconnected
        obtain ⟨device, hdevice, hunknown⟩ := hconnected
        exact .inl ⟨_, .initial hconfigured hload hdevice hunknown⟩

/-- **The tool prints all or nothing, and what it prints is unambiguous.**  Either something keeps
    it from its replay, is its error, and nothing is printed; or the transitions of the script
    under the configured timeouts are printed in order, and what stands between the line breaks is
    one line for each, whatever the addresses are.  Lines that are the same are those of
    transitions that agree in everything but the part of a delay that is not printed, so what is
    printed tells all transitions.  The names of routes in diagnostics tell the routes. -/
theorem unambiguous_output (environment : Environment) (arguments : List String) :
    let result := run environment arguments
    (∀ error, Fails environment arguments error →
      result = .error error ∧ output result = "") ∧
    (∀ config script, Ready environment arguments config script →
      ∃ transitions, script.run config.timeouts.timeouts = .ok transitions ∧
        result = .ok (transitions.map line) ∧
        (output result).toList.splitOn '\n' =
          (transitions.map line).map String.toList ++ [[]]) ∧
    ((∃ error, Fails environment arguments error) ∨
      ∃ config script, Ready environment arguments config script) ∧
    (∀ transition other : Transition,
      line transition = line other ↔ transition.PrintedAs other) ∧
    (∀ transitions others : List Transition,
      output (.ok (transitions.map line)) = output (.ok (others.map line)) ↔
        List.Forall₂ Transition.PrintedAs transitions others) ∧
    ∀ route other : Route, route.name = other.name ↔ route = other := by
  intro result
  refine ⟨fun error hfails => ?_, fun config script hready => ?_,
    fails_or_ready environment arguments, fun _ _ => line_inj, fun _ _ => output_inj,
    fun _ _ => Route.name_injective.eq_iff⟩
  · have hresult : result = .error error := hfails.run_eq
    exact ⟨hresult, by rw [hresult]; rfl⟩
  · obtain ⟨transitions, hrun, hresult⟩ := hready.run_eq
    refine ⟨transitions, hrun, hresult, ?_⟩
    rw [show result = .ok (transitions.map line) from hresult]
    exact splitOn_output_lines transitions

/-- A script whose one address has a line break and a quote in it, and one that begins at a device
    that is not connected. -/
def twoScripts : Environment where
  file
    | "call.toml" => .text ("connected = [\"a\\n\\\"b\"]\n" ++
        "step = [[\"send\", [\"connect_hfp\", \"a\\n\\\"b\"]], [\"wait\", 6000]]\n")
    | "stranger.toml" => .text "initial_state = [\"audio_connecting\", \"B\"]\n"
    | _ => .missing
  defaultConfig := some "config.toml"
  logFilter := none

theorem unambiguous_output_twoScripts :
    (∃ transitions : List Transition,
      run twoScripts ["call.toml"] = .ok (transitions.map line) ∧
      transitions.map (·.event) = [.connect, .expired .confirmation] ∧
      (output (run twoScripts ["call.toml"])).toList.splitOn '\n' =
        (transitions.map line).map String.toList ++ [[]]) ∧
    run twoScripts ["stranger.toml"] =
      .error (.replay (.invalidInitialState (.refused (.unknownDevice ⟨"B"⟩)))) ∧
    output (run twoScripts ["stranger.toml"]) = "" := by
  have hfilter : ∃ filter, LogFilter.choose none "info" = .ok filter := by
    have hok : (LogFilter.choose none "info").isOk = true := by decide +kernel
    cases hchoose : LogFilter.choose none "info" with
    | ok filter => exact ⟨filter, rfl⟩
    | error error => rw [hchoose] at hok; cases hok
  have hconfigured : Configured twoScripts [] {} := ⟨⟨"config.toml", rfl, rfl⟩, hfilter⟩
  let call : Script := {
    connected := [⟨"a\n\"b"⟩]
    steps := [.send (.connect (some ⟨"a\n\"b"⟩)), .wait 6000] }
  let stranger : Script := { initial := .connecting ⟨"B"⟩ }
  have hcall : Script.load "call.toml" (twoScripts.file "call.toml") = .ok call := by
    decide +kernel
  have hstranger : Script.load "stranger.toml" (twoScripts.file "stranger.toml") =
      .ok stranger := by
    decide +kernel
  have hready : Ready twoScripts ["call.toml"] {} call :=
    ⟨⟨"call.toml", [], rfl, hconfigured, hcall⟩, nofun⟩
  have hevents : (call.run (TimeoutSettings.timeouts {})).toOption.map (·.map (·.event)) =
      some [.connect, .expired .confirmation] := by
    decide +kernel
  obtain ⟨-, hprinted, -⟩ := unambiguous_output twoScripts ["call.toml"]
  obtain ⟨hrefused, -⟩ := unambiguous_output twoScripts ["stranger.toml"]
  obtain ⟨transitions, hrun, hresult, hsplit⟩ := hprinted {} call hready
  refine ⟨⟨transitions, hresult, ?_, hsplit⟩,
    hrefused _ (.initial hconfigured hstranger rfl List.not_mem_nil)⟩
  rw [hrun] at hevents
  exact Option.some.inj hevents

end CommandLine

end CallAudio
