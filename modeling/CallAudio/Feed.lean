/-
  A bounded feed that many subscribers read at their own pace.

  The feed keeps the latest `Feed.capacity` items.  A subscriber that falls behind learns
  how many items it missed and goes on with the oldest one kept, so that what it received
  and what it missed together account for every item published since it subscribed.
-/

namespace CallAudio

/-- A feed of items of type `α`. -/
structure Feed (α : Type) where
  /-- How many items were published. -/
  published : Nat := 0
  /-- The latest of them, oldest first. -/
  kept : List α := []
deriving DecidableEq

instance {α : Type} : Inhabited (Feed α) := ⟨{}⟩

/-- A subscriber of a feed. -/
structure Subscriber where
  /-- The number of the item it reads next, counted from 0. -/
  next : Nat
deriving DecidableEq, Inhabited

/-- What a subscriber gets when it reads all there is. -/
structure Delivery (α : Type) where
  /-- How many items were dropped before it could read them. -/
  missed : Nat
  /-- The items that follow. -/
  items : List α
deriving DecidableEq

namespace Feed

variable {α : Type}

/-- How many items a feed keeps. -/
def capacity : Nat := 256

/-- Publishes an item; if there is no room the oldest one is dropped. -/
def publish (feed : Feed α) (item : α) : Feed α where
  published := feed.published + 1
  kept := (feed.kept ++ [item]).drop (feed.kept.length + 1 - capacity)

/-- The number of the oldest item kept. -/
def oldest (feed : Feed α) : Nat := feed.published - feed.kept.length

/-- A subscriber for the items published from now on. -/
def subscribe (feed : Feed α) : Subscriber := ⟨feed.published⟩

/-- Reads all that is kept for a subscriber. -/
def drain (feed : Feed α) (subscriber : Subscriber) : Delivery α × Subscriber :=
  ({ missed := feed.oldest - subscriber.next
     items := feed.kept.drop (subscriber.next - feed.oldest) },
    ⟨feed.published⟩)

/-- A feed never keeps more than `capacity` items. -/
theorem kept_publish_le {feed : Feed α} (h : feed.kept.length ≤ capacity) (item : α) :
    (feed.publish item).kept.length ≤ capacity := by
  simp only [publish, List.length_drop, List.length_append, List.length_singleton]
  omega

/-- While there is room nothing is dropped. -/
theorem kept_publish_of_lt {feed : Feed α} (h : feed.kept.length < capacity) (item : α) :
    (feed.publish item).kept = feed.kept ++ [item] := by
  simp only [publish, show feed.kept.length + 1 - capacity = 0 by omega, List.drop_zero]

/-! ## What was published -/

/-- A feed to which `items` were published, in this order. -/
structure Carries (feed : Feed α) (items : List α) : Prop where
  /-- All of them were. -/
  published : feed.published = items.length
  /-- The latest are kept. -/
  kept : feed.kept = items.drop (items.length - capacity)

theorem carries_nil : Carries ({} : Feed α) [] := ⟨rfl, by simp⟩

variable {feed : Feed α} {items : List α}

theorem Carries.publish (h : feed.Carries items) (item : α) :
    (feed.publish item).Carries (items ++ [item]) := by
  obtain ⟨hpublished, hkept⟩ := h
  refine ⟨by simp [Feed.publish, hpublished], ?_⟩
  simp only [Feed.publish, hkept, List.length_drop, List.length_append, List.length_singleton]
  generalize capacity = size
  rw [← List.drop_append_of_le_length (Nat.sub_le _ _), List.drop_drop]
  congr 1
  omega

theorem Carries.publishAll (h : feed.Carries items) (more : List α) :
    (more.foldl Feed.publish feed).Carries (items ++ more) := by
  induction more generalizing feed items with
  | nil => simpa using h
  | cons item more ih => simpa using ih (h.publish item)

/-- A subscriber misses no more than there is no room for, and gets the rest in order. -/
theorem Carries.drain {before since : List α} (h : feed.Carries (before ++ since)) :
    let delivery := (feed.drain ⟨before.length⟩).1
    delivery.missed = since.length - capacity ∧
      delivery.items = since.drop delivery.missed := by
  obtain ⟨hpublished, hkept⟩ := h
  simp only [Feed.drain, oldest, hpublished, hkept, List.length_drop, List.length_append,
    List.drop_drop]
  generalize capacity = size
  refine ⟨by omega, ?_⟩
  rw [List.drop_append, List.drop_eq_nil_of_le (by omega), List.nil_append]
  congr 1
  omega

/-- If all is known that the feed keeps no longer, it tells what was published. -/
theorem Carries.unique {others : List α} {read : Nat} (h : feed.Carries items)
    (hothers : feed.Carries others) (hread : items.take read = others.take read)
    (hroom : items.length ≤ read + capacity) : items = others := by
  have hlength : items.length = others.length := h.published.symm.trans hothers.published
  have hkept := h.kept.symm.trans hothers.kept
  rw [← hlength] at hkept
  have hunread := congrArg (List.drop (read - (items.length - capacity))) hkept
  rw [List.drop_drop, List.drop_drop, Nat.add_sub_cancel' (by omega)] at hunread
  rw [← List.take_append_drop read items, ← List.take_append_drop read others, hread, hunread]

end Feed

end CallAudio
