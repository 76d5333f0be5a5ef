/-
  The order of the connected devices.

  The directory keeps its devices by taking a device out and by putting it in front.  What comes
  of that can be told from the history alone.

  * `Recency.Change`, `Recency.changeAll`: devices that connect and disconnect;
  * `Recency.lastChange?`, `Recency.age`: what became of a device last, and how long ago it
    connected;
  * `Recency.devices_changeAll`: the devices of which nothing was heard stay behind the others;
  * `Recency.mem_recent`, `Recency.pairwise_recent`: the others are those that connected last, the
    latest first;
  * `Host.recency_run`: nothing else that a host is asked has to do with the list;
  * `Host.recency_order`: all of it, for the answers of a host, its machine and its headset.
-/
import CallAudio.Host
import Mathlib.Data.List.Induction
import Mathlib.Data.List.Nodup

namespace CallAudio

namespace Recency

/-- A device connects or disconnects. -/
inductive Change where
  /-- It connects. -/
  | connect (device : Device)
  /-- It disconnects. -/
  | disconnect (device : Device)
deriving DecidableEq

/-- The device that connects or disconnects. -/
def Change.device : Change → Device
  | connect device | disconnect device => device

/-- The list after a change. -/
def change (recency : Recency) : Change → Recency
  | .connect device => recency.connect device
  | .disconnect device => recency.disconnect device

/-- The list after all of `changes`. -/
def changeAll (recency : Recency) (changes : List Change) : Recency :=
  changes.foldl change recency

/-- What became of a device last. -/
def lastChange? (changes : List Change) (device : Device) : Option Change :=
  (changes.filter (·.device = device)).getLast?

/-- How many changes there were since the device connected last. -/
def age (changes : List Change) (device : Device) : Nat :=
  changes.reverse.idxOf (.connect device)

/-- The devices that are listed after `changes` if none was before. -/
def recent (changes : List Change) : List Device := (changeAll {} changes).devices

variable {recency : Recency} {changes : List Change} {device other : Device}

theorem changeAll_concat (recency : Recency) (changes : List Change) (change : Change) :
    recency.changeAll (changes ++ [change]) = (recency.changeAll changes).change change := by
  simp [changeAll]

theorem lastChange?_concat (changes : List Change) (change : Change) (device : Device) :
    lastChange? (changes ++ [change]) device =
      if change.device = device then some change else lastChange? changes device := by
  rw [lastChange?, List.filter_append]
  split
  · next h => simp [h]
  · next h => simp [h, lastChange?]

theorem age_concat (changes : List Change) (change : Change) (device : Device) :
    age (changes ++ [change]) device =
      if change = .connect device then 0 else age changes device + 1 := by
  rw [age, List.reverse_append, List.reverse_singleton, List.singleton_append, List.idxOf_cons]
  simp [age, beq_iff_eq]

/-! ## Devices that connected -/

/-- A change takes the device out, and puts it in front if it connects. -/
theorem devices_change (recency : Recency) (change : Change) :
    (recency.change change).devices =
      (match change with
        | .connect device => [device]
        | .disconnect _ => []) ++ recency.devices.filter (· != change.device) := by
  cases change <;> rfl

/-- Entries of which nothing was heard stay as they are, behind the others. -/
theorem devices_changeAll (devices : List Device) (changes : List Change) :
    (changeAll ⟨devices⟩ changes).devices =
      recent changes ++ devices.filter (· ∉ changes.map (·.device)) := by
  induction changes using List.reverseRecOn with
  | nil => simp [changeAll, recent]
  | append_singleton changes change ih =>
    rw [recent, changeAll_concat, changeAll_concat, devices_change, devices_change, ih,
      List.append_assoc, ← recent, List.filter_append, List.filter_filter]
    congr 3
    funext device
    rw [Bool.eq_iff_iff]
    simp [and_comm]

/-- **Those listed are the devices that connected last.** -/
theorem mem_recent : device ∈ recent changes ↔
    lastChange? changes device = some (.connect device) := by
  induction changes using List.reverseRecOn with
  | nil => simp [recent, changeAll, lastChange?]
  | append_singleton changes change ih =>
    rw [recent, changeAll_concat, devices_change, ← recent, lastChange?_concat, List.mem_append,
      List.mem_filter, ih]
    cases change with
    | connect other =>
      by_cases h : other = device
      · simp [Change.device, h]
      · simp [Change.device, h, Ne.symm h]
    | disconnect other =>
      by_cases h : other = device
      · simp [Change.device, h]
      · simp [Change.device, h, Ne.symm h]

/-- **They are listed by their last connection, the latest first.** -/
theorem pairwise_recent (changes : List Change) :
    (recent changes).Pairwise (age changes · < age changes ·) := by
  induction changes using List.reverseRecOn with
  | nil => exact .nil
  | append_singleton changes change ih =>
    -- all that were listed before and still are have become older by one change
    have hkept : ((recent changes).filter (· != change.device)).Pairwise
        (age (changes ++ [change]) · < age (changes ++ [change]) ·) := by
      refine (ih.sublist List.filter_sublist).imp_of_mem
        fun {first second} hfirst hsecond hage => ?_
      have hother {device : Device} (hmem : device ∈ (recent changes).filter (· != change.device)) :
          change ≠ .connect device := by
        rintro rfl
        simp [Change.device] at hmem
      rw [age_concat, age_concat, if_neg (hother hfirst), if_neg (hother hsecond)]
      omega
    rw [recent, changeAll_concat, devices_change, ← recent]
    cases change with
    | connect device =>
      refine List.pairwise_cons.2 ⟨fun other hmem => ?_, hkept⟩
      have hne : device ≠ other := by
        rintro rfl
        simp [Change.device] at hmem
      simp [age_concat, hne]
    | disconnect device => exact hkept

theorem nodup_recent (changes : List Change) : (recent changes).Nodup :=
  (pairwise_recent changes).imp fun hage heq => by rw [heq] at hage; omega

/-! ## The answers of the directory -/

/-- The device proposed is the first entry that is not left out. -/
theorem mostRecent_eq_some_iff {excluded : Option Device} :
    recency.mostRecent excluded = some device ↔ some device ≠ excluded ∧
      ∃ front rest, recency.devices = front ++ device :: rest ∧
        ∀ other ∈ front, some other = excluded := by
  simp [mostRecent, List.find?_eq_some_iff_append]

theorem mostRecent_eq_none_iff {excluded : Option Device} :
    recency.mostRecent excluded = none ↔
      ∀ device ∈ recency.devices, some device = excluded := by
  simp [mostRecent]

end Recency

namespace Host

/-- The device that connects or disconnects, if that is asked for. -/
def Request.change? : Request → Option Recency.Change
  | .connect device => some (.connect device)
  | .disconnect device => some (.disconnect device)
  | _ => none

/-- Whether the list of devices is given as a whole. -/
def Request.replaces : Request → Bool
  | .replace _ => true
  | _ => false

/-- Nobody else writes the list: neither what is done to the headset nor what the machine does. -/
theorem recency_serve {request : Request} (h : request.replaces = false) (host : Host) :
    (host.serve request).1.stack.recency =
      request.change?.elim host.stack.recency host.stack.recency.change := by
  cases request with
  | replace devices => cases h
  | force route => simp only [serve, enter]; split <;> rfl
  | _ => rfl

theorem recency_run {requests : List Request}
    (h : ∀ request ∈ requests, request.replaces = false) (host : Host) :
    (host.run requests).stack.recency =
      host.stack.recency.changeAll (requests.filterMap (·.change?)) := by
  induction requests generalizing host with
  | nil => rfl
  | cons request requests ih =>
    have hstep := recency_serve (h request List.mem_cons_self) host
    have hrest := ih (fun request hmem => h request (.tail _ hmem)) (host.serve request).1
    rw [hstep] at hrest
    rw [List.filterMap_cons]
    cases hchange : request.change? with
    | none => rw [hchange] at hrest; exact hrest
    | some change => rw [hchange] at hrest; exact hrest

/-- **The directory lists the devices by their last connection.**  Whatever a host is asked after
    a list was given as a whole, if no other is: the devices come first that connected since and
    have not disconnected, the latest in front, each once; those that disconnected are gone; the
    entries of which nothing was heard follow as they were given.  So no device is listed twice if
    none was given twice.  The machine's directory and the headset have this very list: the number
    of devices, whether a device is connected, and the device proposed, which is the first entry
    that is not left out, are read off it, and these are what the host answers. -/
theorem recency_order (host : Host) (devices : List Device) (requests : List Request)
    (h : ∀ request ∈ requests, request.replaces = false) :
    let after := host.run (.replace devices :: requests)
    let changes := requests.filterMap (·.change?)
    let listed := after.stack.recency.devices
    let directory := after.stack.surroundings.directory
    (∃ recent,
      listed = recent ++ devices.filter (· ∉ changes.map (·.device)) ∧
      (∀ device, device ∈ recent ↔
        Recency.lastChange? changes device = some (.connect device)) ∧
      recent.Pairwise (Recency.age changes · < Recency.age changes ·)) ∧
    (∀ device ∈ changes.map (·.device), listed.count device =
      if Recency.lastChange? changes device = some (.connect device) then 1 else 0) ∧
    (devices.Nodup → listed.Nodup) ∧
    (∀ device, directory.contains device = true ↔ device ∈ listed) ∧
    directory.count = listed.length ∧
    after.stack.surroundings.headset.devices = listed ∧
    (∀ excluded device, directory.mostRecent excluded = some device ↔
      some device ≠ excluded ∧ ∃ front rest, listed = front ++ device :: rest ∧
        ∀ other ∈ front, some other = excluded) ∧
    (∀ excluded, directory.mostRecent excluded = none ↔
      ∀ device ∈ listed, some device = excluded) ∧
    (∀ device, (after.serve (.contains device)).2 = .truth (directory.contains device)) ∧
    (after.serve .count).2 = .number directory.count ∧
    (∀ accepts, (after.serve (.setAccepts accepts)).2 = .devices listed) ∧
    ∀ excluded,
      (after.serve (.mostRecent excluded)).2 = .device (directory.mostRecent excluded) := by
  intro after changes listed directory
  have hlisted : listed =
      Recency.recent changes ++ devices.filter (· ∉ changes.map (·.device)) := by
    rw [← Recency.devices_changeAll]
    exact congrArg Recency.devices (recency_run h (host.serve (.replace devices)).1)
  have hnodup := Recency.nodup_recent changes
  have hcount {device : Device} (hmem : device ∈ changes.map (·.device)) :
      (devices.filter (· ∉ changes.map (·.device))).count device = 0 :=
    List.count_eq_zero.2 fun hfilter => by simpa [hmem] using (List.mem_filter.1 hfilter).2
  refine ⟨⟨_, hlisted, fun _ => Recency.mem_recent, Recency.pairwise_recent changes⟩,
    fun device hmem => ?_, fun hgiven => ?_, fun _ => Recency.contains_iff, rfl, rfl,
    fun _ _ => Recency.mostRecent_eq_some_iff, fun _ => Recency.mostRecent_eq_none_iff,
    fun _ => rfl, rfl, fun _ => rfl, fun _ => rfl⟩
  · rw [hlisted, List.count_append, hcount hmem, Nat.add_zero, hnodup.count]
    simp only [Recency.mem_recent]
  · rw [hlisted]
    refine hnodup.append (hgiven.filter _) fun device hrecent hfilter => ?_
    -- a device that is listed in front was heard of
    have hlast := List.mem_of_getLast? (Recency.mem_recent.1 hrecent)
    have hmem : device ∈ changes.map (·.device) :=
      List.mem_map.2 ⟨.connect device, (List.mem_filter.1 hlast).1, rfl⟩
    exact absurd hfilter (List.count_eq_zero.1 (hcount hmem))

/-- A device that was given connects again, one connects twice, one disconnects, and one was given
    twice and is not heard of. -/
theorem recency_order_reconnected :
    let host := Host.start (.of (.ofMillis 5000) (.ofMillis 500) 1) []
    let requests : List Request := [.connect ⟨"D"⟩, .connect ⟨"A"⟩, .process (.connect none),
      .connect ⟨"D"⟩, .disconnect ⟨"C"⟩]
    let after := host.run (.replace [⟨"B"⟩, ⟨"A"⟩, ⟨"B"⟩, ⟨"C"⟩] :: requests)
    let directory := after.stack.surroundings.directory
    (∀ request ∈ requests, request.replaces = false) ∧
      after.stack.recency.devices = [⟨"D"⟩, ⟨"A"⟩, ⟨"B"⟩, ⟨"B"⟩] ∧
      after.stack.recency.devices.count ⟨"A"⟩ = 1 ∧
      after.stack.recency.devices.count ⟨"C"⟩ = 0 ∧
      directory.mostRecent (some ⟨"D"⟩) = some ⟨"A"⟩ ∧
      after.stack.surroundings.headset.devices = after.stack.recency.devices := by
  intro host requests after directory
  have hreplaces : ∀ request ∈ requests, request.replaces = false := by decide
  have hlisted : after.stack.recency.devices = [⟨"D"⟩, ⟨"A"⟩, ⟨"B"⟩, ⟨"B"⟩] := by decide
  obtain ⟨-, hcount, -, -, -, hheadset, hproposed, -⟩ :=
    recency_order host [⟨"B"⟩, ⟨"A"⟩, ⟨"B"⟩, ⟨"C"⟩] requests hreplaces
  refine ⟨hreplaces, hlisted, (hcount ⟨"A"⟩ (by decide)).trans (by decide),
    (hcount ⟨"C"⟩ (by decide)).trans (by decide), (hproposed _ _).2 ⟨by decide, ?_⟩, hheadset⟩
  exact ⟨[⟨"D"⟩], [⟨"B"⟩, ⟨"B"⟩], hlisted, by simp⟩

end Host

end CallAudio
