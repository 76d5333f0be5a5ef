/-
  Those who follow a service.

  Subscribers come when they like and read when they like, and the feed does not wait for them.

  * `Audience`, `Audience.Move`, `Audience.play`: a service with its subscribers, and what happens
    to it and to them;
  * `Audience.deliveries`, `Audience.processed`: what a subscriber gets, and what the service
    processes meanwhile;
  * `Delivery.Recount`: deliveries that leave nothing out but what they say is missed;
  * `Audience.service_play`: the service does not notice who reads;
  * `Audience.Follows`: what a subscriber has got, and what it has not read yet;
    `Audience.Follows.play`: so it is whatever happens;
  * `Audience.accounted_transitions`: what follows for every subscriber.
-/
import CallAudio.Proofs.Cause
import Mathlib.Algebra.GroupWithZero.Nat

namespace CallAudio

/-! ## Subscribers -/

/-- A service and its subscribers, in the order in which they came. -/
structure Audience where
  service : Service
  subscribers : List Subscriber := []

/-- What deliveries tell of `items`: each one leaves out as many as it says are missed, and then
    has those that follow. -/
inductive Delivery.Recount {α : Type} : List (Delivery α) → List α → Prop
  /-- Nothing was delivered. -/
  | nil : Recount [] []
  /-- One more delivery. -/
  | concat {deliveries : List (Delivery α)} {delivery : Delivery α} {items omitted : List α}
      (h : Recount deliveries items) (hmissed : omitted.length = delivery.missed) :
      Recount (deliveries ++ [delivery]) (items ++ (omitted ++ delivery.items))

/-- One more delivery, of all but the oldest of some items. -/
theorem Delivery.Recount.concat_drop {α : Type} {deliveries : List (Delivery α)}
    {items more : List α} {missed : Nat} (h : Recount deliveries items)
    (hmissed : missed ≤ more.length) :
    Recount (deliveries ++ [⟨missed, more.drop missed⟩]) (items ++ more) := by
  have homitted : (more.take missed).length = missed := List.length_take_of_le hmissed
  have hconcat : Recount (deliveries ++ [⟨missed, more.drop missed⟩]) _ := h.concat homitted
  rwa [List.take_append_drop] at hconcat

/-- What was missed and what was received make up all. -/
theorem Delivery.Recount.length_eq {α : Type} {deliveries : List (Delivery α)} {items : List α}
    (h : Recount deliveries items) :
    (deliveries.map (·.missed)).sum + (deliveries.flatMap (·.items)).length = items.length := by
  induction h with
  | nil => rfl
  | concat _ hmissed ih =>
    simp only [List.map_append, List.sum_append, List.flatMap_append, List.length_append,
      List.map_cons, List.map_nil, List.sum_cons, List.sum_nil, List.flatMap_cons,
      List.flatMap_nil, List.append_nil]
    omega

/-- If there is room for all items none is missed. -/
theorem Delivery.within_eq {α : Type} (items : List α) (room : Nat) :
    (⟨items.length - room, items.drop (items.length - room)⟩ : Delivery α) =
      if items.length ≤ room then ⟨0, items⟩
      else ⟨items.length - room, items.drop (items.length - room)⟩ := by
  split
  · next hroom => rw [Nat.sub_eq_zero_of_le hroom, List.drop_zero]
  · rfl

namespace Audience

/-- Something that happens to a service or among its subscribers. -/
inductive Move where
  /-- Something happens to the service. -/
  | act (action : Action)
  /-- Somebody subscribes. -/
  | subscribe
  /-- Subscriber `number` reads all there is. -/
  | read (number : Nat)

/-- What happens to the service. -/
def Move.action? : Move → Option Action
  | act action => some action
  | subscribe | read _ => none

/-- The service and its subscribers after a move.  If there is no such subscriber nothing
    happens. -/
def move (audience : Audience) : Move → Audience
  | .act action => { audience with service := audience.service.act action }
  | .subscribe =>
    { audience with subscribers := audience.subscribers ++ [audience.service.feed.subscribe] }
  | .read number =>
    { audience with subscribers :=
        audience.subscribers.modify number fun subscriber =>
          (audience.service.feed.drain subscriber).2 }

/-- The service and its subscribers after all of `moves`. -/
def play (audience : Audience) (moves : List Move) : Audience := moves.foldl move audience

/-- What subscriber `number` gets if it reads. -/
def delivery? (audience : Audience) (number : Nat) : Option (Delivery Transition) :=
  audience.subscribers[number]?.map fun subscriber =>
    (audience.service.feed.drain subscriber).1

/-- What subscriber `number` gets by a move. -/
def delivered? (audience : Audience) (number : Nat) : Move → Option (Delivery Transition)
  | .read other => if other = number then audience.delivery? number else none
  | .act _ | .subscribe => none

/-- What subscriber `number` gets by `moves`, in order. -/
def deliveries (audience : Audience) (number : Nat) : List Move → List (Delivery Transition)
  | [] => []
  | next :: moves =>
    (audience.delivered? number next).toList ++ (audience.move next).deliveries number moves

/-- The transitions of the events that the service handles during `moves`, in order. -/
def processed (audience : Audience) (moves : List Move) : List Transition :=
  audience.service.router.transitions (audience.service.inputs (moves.filterMap (·.action?)))

/-! ## The service -/

/-- **The service does not notice who subscribes and who reads.** -/
theorem service_play (audience : Audience) (moves : List Move) :
    (audience.play moves).service = audience.service.replay (moves.filterMap (·.action?)) := by
  induction moves generalizing audience with
  | nil => rfl
  | cons next moves ih =>
    rw [play, List.foldl_cons, ← play, ih]
    cases next <;> rfl

theorem play_append (audience : Audience) (moves more : List Move) :
    audience.play (moves ++ more) = (audience.play moves).play more := by
  simp [play]

theorem processed_append (audience : Audience) (moves more : List Move) :
    audience.processed (moves ++ more) =
      audience.processed moves ++ (audience.play moves).processed more := by
  rw [processed, List.filterMap_append, Service.inputs_append, Router.transitions_append, processed,
    processed, service_play, Service.router_replay]

theorem processed_cons (audience : Audience) (next : Move) (moves : List Move) :
    audience.processed (next :: moves) =
      audience.processed [next] ++ (audience.move next).processed moves :=
  audience.processed_append [next] moves

theorem processed_read (audience : Audience) (number : Nat) :
    audience.processed [.read number] = [] := rfl

theorem deliveries_append (audience : Audience) (number : Nat) (moves more : List Move) :
    audience.deliveries number (moves ++ more) =
      audience.deliveries number moves ++ (audience.play moves).deliveries number more := by
  induction moves generalizing audience with
  | nil => rfl
  | cons next moves ih =>
    rw [List.cons_append, deliveries, deliveries, ih, List.append_assoc]; rfl

/-! ## One subscriber -/

/-- What subscriber `number` has got: the transitions `told` of those that were published since
    it came, in `got`, and then it has not read `unread` yet. -/
structure Follows (number : Nat) (before told unread : List Transition)
    (got : List (Delivery Transition)) (audience : Audience) : Prop where
  /-- These were published. -/
  carries : audience.service.feed.Carries (before ++ told ++ unread)
  /-- It goes on behind what it has got. -/
  place : audience.subscribers[number]? = some ⟨(before ++ told).length⟩
  /-- It was told of all of them. -/
  recount : Delivery.Recount got told

variable {number : Nat} {before told unread : List Transition} {got : List (Delivery Transition)}
  {audience : Audience}

/-- What it gets next. -/
theorem Follows.delivery?_eq (h : audience.Follows number before told unread got) :
    audience.delivery? number = some {
      missed := unread.length - Feed.capacity
      items := unread.drop (unread.length - Feed.capacity) } := by
  obtain ⟨hmissed, hitems⟩ := h.carries.drain
  rw [delivery?, h.place, Option.map_some]
  generalize (audience.service.feed.drain _).1 = delivery at *
  obtain ⟨missed, items⟩ := delivery
  dsimp only at hmissed hitems
  rw [hitems, hmissed]

theorem Follows.waits_move (h : audience.Follows number before told unread got) {next : Move}
    (hreads : next ≠ .read number) :
    (audience.move next).Follows number before told (unread ++ audience.processed [next]) got ∧
      audience.delivered? number next = none := by
  obtain ⟨hcarries, hplace, hrecount⟩ := h
  -- a move that is none of the service's has it process nothing
  have hkept (subscribers : List Subscriber)
      (hkept : subscribers[number]? = audience.subscribers[number]?) :
      Follows number before told (unread ++ []) got { audience with subscribers } :=
    ⟨by rwa [List.append_nil], hkept.trans hplace, hrecount⟩
  cases next with
  | act action =>
    have hprocessed : audience.processed [.act action] =
        audience.service.router.transitions (audience.service.input? action).toList :=
      congrArg audience.service.router.transitions (List.append_nil _)
    refine ⟨⟨?_, hplace, hrecount⟩, rfl⟩
    rw [hprocessed, ← List.append_assoc]
    exact Service.carries_act hcarries action
  | subscribe =>
    obtain ⟨hlt, -⟩ := List.getElem?_eq_some_iff.1 hplace
    exact ⟨hkept _ (List.getElem?_append_left hlt), rfl⟩
  | read other =>
    have hne : other ≠ number := fun heq => hreads (congrArg Move.read heq)
    exact ⟨hkept _ (List.getElem?_modify_ne _ _ hne), if_neg hne⟩

/-- **Until a subscriber reads it gets nothing, and what is processed is to be read.** -/
theorem Follows.waits (h : audience.Follows number before told unread got) {moves : List Move}
    (hreads : .read number ∉ moves) :
    (audience.play moves).Follows number before told (unread ++ audience.processed moves) got ∧
      audience.deliveries number moves = [] := by
  induction moves generalizing audience unread with
  | nil =>
    have hnothing : unread ++ audience.processed [] = unread := List.append_nil _
    exact ⟨hnothing.symm ▸ h, rfl⟩
  | cons next moves ih =>
    have hne : next ≠ .read number := fun heq => hreads (heq ▸ List.mem_cons_self)
    obtain ⟨hnext, hdelivered⟩ := h.waits_move hne
    obtain ⟨hplayed, hdeliveries⟩ := ih hnext fun hmem => hreads (.tail _ hmem)
    rw [List.append_assoc, ← processed_cons] at hplayed
    refine ⟨hplayed, ?_⟩
    rw [deliveries, hdelivered, hdeliveries]
    rfl

theorem Follows.deliveries_read (h : audience.Follows number before told unread got) :
    audience.deliveries number [.read number] =
      [⟨unread.length - Feed.capacity, unread.drop (unread.length - Feed.capacity)⟩] := by
  simp [deliveries, delivered?, h.delivery?_eq]

/-- **When it reads it is told of all there is.** -/
theorem Follows.reads (h : audience.Follows number before told unread got) :
    (audience.play [.read number]).Follows number before (told ++ unread) []
      (got ++ audience.deliveries number [.read number]) := by
  refine ⟨?_, ?_, ?_⟩
  · rw [List.append_nil, ← List.append_assoc]
    exact h.carries
  · have hpublished : audience.service.feed.published = (before ++ (told ++ unread)).length := by
      rw [h.carries.published, List.append_assoc]
    simp [play, move, h.place, Feed.drain, hpublished]
  · rw [h.deliveries_read]
    exact h.recount.concat_drop (Nat.sub_le _ _)

/-- **What a subscriber has got and what it has not read yet is all that was processed.** -/
theorem Follows.play (h : audience.Follows number before told unread got) (moves : List Move) :
    ∃ heard left, heard ++ left = told ++ unread ++ audience.processed moves ∧
      (audience.play moves).Follows number before heard left
        (got ++ audience.deliveries number moves) := by
  induction moves using List.reverseRecOn with
  | nil =>
    exact ⟨told, unread, (List.append_nil _).symm, (List.append_nil got).symm ▸ h⟩
  | append_singleton moves next ih =>
    obtain ⟨heard, left, hall, hplayed⟩ := ih
    rw [processed_append, ← List.append_assoc, ← hall, play_append, deliveries_append,
      ← List.append_assoc]
    by_cases hreads : next = .read number
    · subst hreads
      exact ⟨heard ++ left, [], by simp [processed_read], hplayed.reads⟩
    · obtain ⟨hwaits, hnothing⟩ := hplayed.waits_move hreads
      have hgot : (audience.play moves).deliveries number [next] = [] := by
        simp [deliveries, hnothing]
      refine ⟨heard, left ++ (audience.play moves).processed [next], by simp, ?_⟩
      rw [hgot, List.append_nil]
      exact hwaits

/-- A subscriber that has come or read last of all has nothing left to read. -/
theorem Follows.read_last (h : audience.Follows number before [] [] []) {moves : List Move}
    (hlast : ∀ last ∈ moves.getLast?, last = .read number) :
    (audience.play moves).Follows number before (audience.processed moves) []
      (audience.deliveries number moves) := by
  rcases moves.eq_nil_or_concat' with rfl | ⟨front, last, rfl⟩
  · exact h
  · obtain rfl : last = .read number := hlast last (by simp)
    obtain ⟨heard, left, hall, hplayed⟩ := h.play front
    have hread := hplayed.reads
    rw [hall, List.nil_append, List.nil_append] at hread
    rw [play_append, processed_append, processed_read, List.append_nil, deliveries_append]
    exact hread

/-- Whoever subscribes has missed nothing yet. -/
theorem follows_subscribe {items : List Transition}
    (h : audience.service.feed.Carries items) :
    (audience.move .subscribe).Follows audience.subscribers.length items [] [] [] where
  carries := by simpa [move] using h
  place := by simp [move, Feed.subscribe, h.published]
  recount := .nil

/-- **Subscribers account for every transition.**  Whatever happens to a service, whoever
    subscribes and reads, and when, the service is as if nobody had.  A subscriber gets, in order,
    the transitions of all that the service processes since it subscribed, up to the time at which
    it reads: each delivery leaves out as many as it says are missed and then has those that
    follow, so that what it missed and what it received make up all.  If it has read all that was
    processed before, it gets all that was processed since, and misses nothing, unless these are
    more than 256; then it misses all but the latest 256. -/
theorem accounted_transitions (router : Router) (before : List Move) :
    let start : Audience := { service := .start router }
    let number := (start.play before).subscribers.length
    let joined := start.play (before ++ [.subscribe])
    (∀ moves, (start.play moves).service =
      (Service.start router).replay (moves.filterMap (·.action?))) ∧
    (∀ since,
      let got := joined.deliveries number (since ++ [.read number])
      let processed := joined.processed since
      Delivery.Recount got processed ∧
        (got.map (·.missed)).sum + (got.flatMap (·.items)).length = processed.length) ∧
    ∀ earlier between, (∀ last ∈ earlier.getLast?, last = .read number) →
      .read number ∉ between →
      let recent := (joined.play earlier).processed between
      joined.deliveries number (earlier ++ between ++ [.read number]) =
        joined.deliveries number earlier ++
          [if recent.length ≤ 256 then { missed := 0, items := recent }
            else {
              missed := recent.length - 256
              items := recent.drop (recent.length - 256) }] := by
  intro start number joined
  obtain ⟨items, hcarries⟩ : ∃ items, (start.play before).service.feed.Carries items :=
    ⟨_, start.service_play before ▸ Service.carries_replay Feed.carries_nil _⟩
  have hjoined : joined.Follows number items [] [] [] := by
    rw [show joined = _ from start.play_append before [.subscribe]]
    exact follows_subscribe hcarries
  refine ⟨start.service_play, fun since => ?_, fun earlier between hlast hreads => ?_⟩
  · intro got processed
    have hlast : ∀ last ∈ (since ++ [Move.read number]).getLast?, last = .read number := by simp
    have hread := hjoined.read_last hlast
    rw [processed_append, processed_read, List.append_nil] at hread
    exact ⟨hread.recount, hread.recount.length_eq⟩
  · intro recent
    obtain ⟨hwaits, hnothing⟩ := (hjoined.read_last hlast).waits hreads
    rw [deliveries_append, deliveries_append, hnothing, List.append_nil, play_append,
      hwaits.deliveries_read, Delivery.within_eq]
    rfl

/-- One subscriber reads that the service has asked for audio, and then not before the service has
    stopped: the timer has expired, another subscriber has come and gone on reading, and a device
    was announced 299 times. -/
theorem accounted_transitions_across_stop :
    let world := (Stack.ofDevices [⟨"A"⟩]).surroundings
    let start : Audience := { service := .start (.new (.of (.ofMillis 5000) (.ofMillis 500) 0)) }
    let handled (message : Message) := [Move.act (.enqueue message), .act (.handle world)]
    let earlier := handled (.event (.connect none)) ++ [.read 0]
    let announced := (List.replicate 299 (handled (.event (.deviceAdded ⟨"B"⟩)))).flatten
    let between := [.act (.pass 5000), .act (.ring 0), .act (.handle world), .subscribe, .read 1] ++
      announced ++ handled .stop ++ handled (.event (.connect none)) ++ [.read 1]
    let joined := start.play [.subscribe]
    let recent := (joined.play earlier).processed between
    (∀ last ∈ earlier.getLast?, last = .read 0) ∧ .read 0 ∉ between ∧ recent.length = 300 ∧
      joined.deliveries 0 (earlier ++ between ++ [.read 0]) =
        joined.deliveries 0 earlier ++ [⟨44, recent.drop 44⟩] := by
  intro world start handled earlier announced between joined recent
  have hlast : ∀ last ∈ earlier.getLast?, last = .read 0 := by simp [earlier]
  have hannounced : .read 0 ∉ announced := fun hmem => by
    obtain ⟨_, hpair, hread⟩ := List.mem_flatten.1 hmem
    rw [List.eq_of_mem_replicate hpair] at hread
    simp [handled] at hread
  have hreads : .read 0 ∉ between := by simp [between, handled, hannounced]
  have hlength : recent.length = 300 := by decide +kernel
  obtain ⟨-, -, hdelivered⟩ := accounted_transitions start.service.router []
  have hnext : joined.deliveries 0 (earlier ++ between ++ [.read 0]) = _ :=
    hdelivered earlier between hlast hreads
  refine ⟨hlast, hreads, hlength, hnext.trans (congrArg _ ?_)⟩
  change [if recent.length ≤ 256 then (_ : Delivery Transition) else
    ⟨recent.length - 256, recent.drop (recent.length - 256)⟩] = _
  rw [hlength]
  rfl

end Audience

end CallAudio
